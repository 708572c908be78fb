/-!
# Blank characters

The characters with the Unicode property White_Space, and trimming by them. `trim_eq_nil_iff` says that
a text trims to nothing exactly when it is blank.
-/

namespace EndpointGate.Text

/-- The character has the Unicode property White_Space. -/
def isBlank (c : Char) : Bool :=
  let n := c.toNat
  (9 ≤ n && n ≤ 13) || n == 0x20 || n == 0x85 || n == 0xA0 || n == 0x1680 ||
    (0x2000 ≤ n && n ≤ 0x200A) || n == 0x2028 || n == 0x2029 || n == 0x202F || n == 0x205F ||
    n == 0x3000

def trimStart (cs : List Char) : List Char := cs.dropWhile isBlank

def trimEnd : List Char → List Char
  | [] => []
  | c :: cs =>
    match trimEnd cs with
    | [] => if isBlank c then [] else [c]
    | d :: ds => c :: d :: ds

/-- The text without blanks at either end. -/
def trim (cs : List Char) : List Char := trimEnd (trimStart cs)

theorem trimEnd_eq_nil_iff {cs : List Char} : trimEnd cs = [] ↔ ∀ c ∈ cs, isBlank c = true := by
  induction cs with
  | nil => simp [trimEnd]
  | cons c cs ih =>
    unfold trimEnd
    cases h : trimEnd cs with
    | nil => simp [← ih, h]
    | cons d ds =>
      have : ¬ ∀ x ∈ cs, isBlank x = true := by rw [← ih, h]; simp
      simp only [reduceCtorEq, false_iff, List.mem_cons, forall_eq_or_imp, not_and]
      exact fun _ => this

theorem trim_eq_nil_iff {cs : List Char} : trim cs = [] ↔ ∀ c ∈ cs, isBlank c = true := by
  unfold trim
  rw [trimEnd_eq_nil_iff]
  unfold trimStart
  constructor
  · intro h c hc
    rw [← List.takeWhile_append_dropWhile (p := isBlank) (l := cs)] at hc
    rcases List.mem_append.1 hc with hc | hc
    · exact List.all_eq_true.1 List.all_takeWhile c hc
    · exact h c hc
  · exact fun h c hc => h c (List.dropWhile_sublist _ |>.subset hc)

def trimmed (s : String) : String := String.ofList (trim s.toList)

end EndpointGate.Text
