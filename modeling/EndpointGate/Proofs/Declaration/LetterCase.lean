import EndpointGate.Proofs.Declaration.Grammar
import EndpointGate.Proofs.Text.LetterCase
import Mathlib.Data.List.Forall2

/-!
# Letter case in declarations

Texts that differ only in the case of ASCII letters have the `SameLetters`. Cut at the same kind of ends, such
texts have parts with the same letters, and the parts have one upper case. So a list of methods names the same
methods in either case (`methodsOf_congr`), and declarations that are `Recased`, that is changed in letter case
behind a bracket, are read alike: into equal registries, or up to the same malformed one (`readAlike`).
-/

namespace EndpointGate

namespace Text

/-- The texts are the same but for the case of ASCII letters. -/
def SameLetters (cs ds : List Char) : Prop := cs.map asciiLower = ds.map asciiLower

instance (cs ds : List Char) : Decidable (SameLetters cs ds) := inferInstanceAs (Decidable (_ = _))

variable {cs ds : List Char}

theorem sameLetters_iff_upper : SameLetters cs ds ↔ cs.map asciiUpper = ds.map asciiUpper := by
  have h := @asciiLowercase_eq_iff (String.ofList cs) (String.ofList ds)
  unfold SameLetters
  simpa [asciiLowercase, asciiUppercase, String.ofList_inj] using h

theorem SameLetters.symm (h : SameLetters cs ds) : SameLetters ds cs := Eq.symm h

/-- What does not depend on the case of a letter holds in either text. -/
theorem SameLetters.forall_mem {p : Char → Bool} {b : Bool} (hp : ∀ c, p (asciiUpper c) = p c)
    (h : SameLetters cs ds) (hcs : ∀ c ∈ cs, p c = b) : ∀ d ∈ ds, p d = b := by
  intro d hd
  have hmem : asciiUpper d ∈ cs.map asciiUpper := by
    rw [sameLetters_iff_upper.1 h]
    exact List.mem_map_of_mem hd
  obtain ⟨c, hc, hcd⟩ := List.mem_map.1 hmem
  rw [← hp, ← hcd, hp, hcs c hc]

/-! ## Characters -/

theorem isBlank_asciiUpper (c : Char) : isBlank (asciiUpper c) = isBlank c := by
  rw [Bool.eq_iff_iff]
  simp only [isBlank, asciiUpper_toNat, Bool.or_eq_true, Bool.and_eq_true, beq_iff_eq, decide_eq_true_eq]
  split_ifs <;> omega

/-- A character that is no letter is the upper case of itself only. -/
theorem asciiUpper_eq_iff {c d : Char} (hd : d.toNat < 65 ∨ 90 < d.toNat ∧ d.toNat < 97) :
    asciiUpper c = d ↔ c = d := by
  rw [← Char.toNat_inj, ← Char.toNat_inj, asciiUpper_toNat]
  split_ifs <;> omega

theorem upperChar_asciiUpper (c : Char) : upperChar (asciiUpper c) = upperChar c := by
  have hupper := asciiUpper_toNat c
  by_cases h : c.toNat < 0x80
  · have hlt : (asciiUpper c).toNat < 0x80 := by
      rw [hupper]
      split_ifs <;> omega
    unfold upperChar
    rw [if_pos h, if_pos hlt, asciiUpper_asciiUpper]
  · rw [if_neg (by omega)] at hupper
    rw [Char.toNat_inj.1 hupper]

theorem upper_map_asciiUpper (cs : List Char) : upper (cs.map asciiUpper) = upper cs := by
  simp [upper, List.flatMap_map, upperChar_asciiUpper]

/-! ## Parts -/

variable {isEnd : Char → Bool} {f : Char → Char}

theorem pieces_map (hf : ∀ c, isEnd (f c) = isEnd c) (cs : List Char) :
    pieces isEnd (cs.map f) = (pieces isEnd cs).map (List.map f) := by
  induction cs with
  | nil => rfl
  | cons c cs ih =>
    rw [List.map_cons, pieces, pieces, ih, hf]
    cases isEnd c with
    | true => rfl
    | false => cases pieces isEnd cs <;> rfl

theorem fields_map (hf : ∀ c, isEnd (f c) = isEnd c) (cs : List Char) :
    fields isEnd (cs.map f) = (fields isEnd cs).map (List.map f) := by
  simp [fields, pieces_map hf, List.filter_map, Function.comp_def]

end Text

namespace MethodSet

variable {tokens tokens' : List String}

theorem ofTokens_congr (h : namesOf tokens = namesOf tokens') : ofTokens tokens = ofTokens tokens' := by
  unfold namesOf at h
  unfold ofTokens
  rw [h]

end MethodSet

namespace Declaration

open Text

/-- The second text is the first one, where the case of letters may be another one behind a bracket. -/
inductive Recased : List Char → List Char → Prop
  | same (cs : List Char) : Recased cs cs
  | inList (front : List Char) {list list' : List Char} (h : SameLetters list list') :
    Recased (front ++ '[' :: list) (front ++ '[' :: list')

variable {cs cs' pattern body body' : List Char} {entry entry' : String}

theorem Recased.symm (h : Recased cs cs') : Recased cs' cs := by
  cases h with
  | same => exact .same cs
  | inList front h => exact .inList front h.symm

/-! ## Lists of methods -/

theorem isBracket_asciiUpper (c : Char) : isBracket (asciiUpper c) = isBracket c := by
  rw [Bool.eq_iff_iff]
  simp [isBracket, asciiUpper_eq_iff]

theorem isSeparator_asciiUpper (c : Char) : isSeparator (asciiUpper c) = isSeparator c := by
  rw [Bool.eq_iff_iff]
  simp [isSeparator, isBlank_asciiUpper, asciiUpper_eq_iff]

theorem methodsOf_map_asciiUpper (body : List Char) :
    methodsOf (some (body.map asciiUpper)) = methodsOf (some body) := by
  apply MethodSet.ofTokens_congr
  rw [MethodSet.namesOf_map_ofList fun _ => not_isBlank_of_mem_fields,
    MethodSet.namesOf_map_ofList fun _ => not_isBlank_of_mem_fields, fields_map isSeparator_asciiUpper]
  simp [upper_map_asciiUpper]

theorem methodsOf_congr (h : SameLetters body body') : methodsOf (some body) = methodsOf (some body') := by
  rw [← methodsOf_map_asciiUpper body, sameLetters_iff_upper.1 h, methodsOf_map_asciiUpper]

/-! ## Declarations -/

/-- A list in another letter case is a list between brackets as well. -/
theorem listed_of_sameLetters {w list : List Char} (hbody : ∀ c ∈ body, isBracket c = false)
    (hw : IsBlankText w) (h : SameLetters (body ++ ']' :: w) list) :
    ∃ body' w', list = body' ++ ']' :: w' ∧ SameLetters body body' ∧ (∀ c ∈ body', isBracket c = false) ∧
      IsBlankText w' := by
  have hmap := (sameLetters_iff_upper.1 h).symm
  rw [List.map_append, List.map_cons] at hmap
  obtain ⟨body', rest, rfl, hbody', hrest⟩ := List.map_eq_append_iff.1 hmap
  obtain ⟨c, w', rfl, hc, hw'⟩ := List.map_eq_cons_iff.1 hrest
  obtain rfl := (asciiUpper_eq_iff (by decide)).1 hc
  have hbodies : SameLetters body body' := sameLetters_iff_upper.2 hbody'.symm
  have hblanks : SameLetters w w' := sameLetters_iff_upper.2 hw'.symm
  exact ⟨body', w', rfl, hbodies, hbodies.forall_mem isBracket_asciiUpper hbody,
    hblanks.forall_mem isBlank_asciiUpper hw⟩

theorem not_mem_of_isBlankText {w : List Char} (hw : IsBlankText w) : '[' ∉ w := by
  intro hmem
  exact absurd (hw _ hmem) (by decide)

theorem not_mem_of_isPatternChar (h : ∀ c ∈ pattern, isPatternChar c = true) : '[' ∉ pattern := by
  intro hmem
  exact absurd (h _ hmem) (by decide)

/-- A declaration has one opening bracket at most: the list of its methods, whatever it is, stands behind it. -/
theorem IsWritten.listed_of_open {front list : List Char} {list? : Option (List Char)}
    (h : IsWritten (front ++ '[' :: list) pattern list?) :
    ∃ body w, list = body ++ ']' :: w ∧ list? = some body ∧ (∀ c ∈ body, isBracket c = false) ∧
      IsBlankText w ∧ ∀ body' w', (∀ c ∈ body', isBracket c = false) → IsBlankText w' →
        IsWritten (front ++ '[' :: (body' ++ ']' :: w')) pattern (some body') := by
  generalize hcs : front ++ '[' :: list = cs at h
  cases h with
  | @intro w pattern tail _ hw hne hpattern htail =>
    have hopen : '[' ∉ w ++ pattern := by
      simp [not_mem_of_isBlankText hw, not_mem_of_isPatternChar hpattern]
    cases htail with
    | bare htail =>
      have hmem : '[' ∈ w ++ pattern ++ tail := by
        rw [← hcs]
        simp
      rw [List.mem_append] at hmem
      exact absurd hmem (not_or.2 ⟨hopen, not_mem_of_isBlankText htail⟩)
    | @listed w₁ body w₂ hw₁ hbody hw₂ =>
      have hfirst : '[' ∉ w ++ pattern ++ w₁ := by
        rw [List.mem_append]
        exact not_or.2 ⟨hopen, not_mem_of_isBlankText hw₁⟩
      have hlast : '[' ∉ body ++ ']' :: w₂ := by
        have hinside : '[' ∉ body := fun hmem => absurd (hbody _ hmem) (by decide)
        simp [hinside, not_mem_of_isBlankText hw₂]
      have heq : (w ++ pattern ++ w₁) ++ '[' :: (body ++ ']' :: w₂) = front ++ '[' :: list := by
        rw [hcs]
        simp
      obtain ⟨rfl, -, rfl⟩ := (List.append_cons_inj_of_notMem hfirst hlast).1 heq
      refine ⟨body, w₂, rfl, rfl, hbody, hw₂, fun body' w' hbody' hw' => ?_⟩
      have hwritten := IsWritten.intro hw hne hpattern (.listed hw₁ hbody' hw')
      simpa using hwritten

theorem Recased.isWritten {list? : Option (List Char)} (h : Recased cs cs') (hw : IsWritten cs pattern list?) :
    ∃ list?', IsWritten cs' pattern list?' ∧ methodsOf list?' = methodsOf list? := by
  cases h with
  | same => exact ⟨list?, hw, rfl⟩
  | inList front h =>
    obtain ⟨body, w, rfl, rfl, hbody, hblank, hother⟩ := hw.listed_of_open
    obtain ⟨body', w', rfl, hsame, hbody', hblank'⟩ := listed_of_sameLetters hbody hblank h
    exact ⟨some body', hother body' w' hbody' hblank', (methodsOf_congr hsame).symm⟩

theorem Recased.parse?_eq_some {d : Declaration} (h : Recased entry.toList entry'.toList)
    (hd : parse? entry = some d) : parse? entry' = some d := by
  obtain ⟨pattern, list?, hw, hpattern, hlisted⟩ := parse?_eq_some_iff.1 hd
  obtain ⟨list?', hw', hmethods⟩ := h.isWritten hw
  refine parse?_eq_some_iff.2 ⟨pattern, list?', hw', hpattern, ?_⟩
  rw [areListed_iff, hmethods, ← areListed_iff]
  exact hlisted

theorem Recased.parse?_eq (h : Recased entry.toList entry'.toList) : parse? entry = parse? entry' :=
  Option.ext fun _ => ⟨h.parse?_eq_some, h.symm.parse?_eq_some⟩

end Declaration

namespace Registry

open Declaration

/-- Reading fails at the text with this index: it is the first one that is no declaration, and is quoted. -/
structure FailsAt (entries : List String) (i : Nat) (entry : String) : Prop where
  found : entries[i]? = some entry
  before : ∀ x ∈ entries.take i, IsDeclaration x
  malformed : ¬IsDeclaration entry
  quoted : ofEntries entries = .error (.invalidDeclaration entry)

/-- Reading either list gives the same registry, or fails at the same index. -/
inductive ReadAlike (entries entries' : List String) : Prop
  | ok (r : Registry) (h : ofEntries entries = .ok r) (h' : ofEntries entries' = .ok r)
  | error (i : Nat) {entry entry' : String} (h : FailsAt entries i entry) (h' : FailsAt entries' i entry')

variable {entries entries' : List String} {i : Nat} {entry : String}

theorem exists_failsAt {e : SettingsError} (h : ofEntries entries = .error e) :
    ∃ i entry, FailsAt entries i entry := by
  obtain ⟨before, entry, after, rfl, hbefore, hno, rfl⟩ := ofEntries_eq_error_iff.1 h
  refine ⟨before.length, entry, by simp, ?_, hno, h⟩
  rwa [List.take_left]

/-- Where reading fails shows in what the texts are read as. -/
theorem failsAt_of_parse? (hentry : entries[i]? = some entry) (hno : parse? entry = none)
    (hbefore : none ∉ (entries.map parse?).take i) : FailsAt entries i entry := by
  have hdecls : ∀ x ∈ entries.take i, IsDeclaration x := by
    intro x hx
    by_contra hnot
    apply hbefore
    rw [← List.map_take, ← parse?_eq_none_iff.2 hnot]
    exact List.mem_map_of_mem hx
  refine ⟨hentry, hdecls, parse?_eq_none_iff.1 hno, ofEntries_eq_error_iff.2 ?_⟩
  obtain ⟨hi, rfl⟩ := List.getElem?_eq_some_iff.1 hentry
  refine ⟨entries.take i, entries[i], entries.drop (i + 1), ?_, hdecls, parse?_eq_none_iff.1 hno, rfl⟩
  rw [← List.drop_eq_getElem_cons, List.take_append_drop]

theorem FailsAt.of_map_parse?_eq (hparse : entries.map parse? = entries'.map parse?)
    (h : FailsAt entries i entry) : ∃ entry', FailsAt entries' i entry' := by
  have hnone : (entries'.map parse?)[i]? = some none := by
    rw [← hparse, List.getElem?_map, h.found, Option.map_some, parse?_eq_none_iff.2 h.malformed]
  rw [List.getElem?_map] at hnone
  obtain ⟨entry', hentry', hno⟩ := Option.map_eq_some_iff.1 hnone
  refine ⟨entry', failsAt_of_parse? hentry' hno ?_⟩
  rw [← hparse, ← List.map_take, List.mem_map]
  rintro ⟨x, hx, hxno⟩
  exact parse?_eq_none_iff.1 hxno (h.before x hx)

/-- What the texts are read as decides on the whole list. -/
theorem readAlike_of_map_parse?_eq (hparse : entries.map parse? = entries'.map parse?) :
    ReadAlike entries entries' := by
  cases hread : ofEntries entries with
  | ok r =>
    obtain ⟨ds, hds, hr⟩ := insertAll_eq_ok_iff.1 hread
    exact .ok r hread (insertAll_eq_ok_iff.2 ⟨ds, hparse ▸ hds, hr⟩)
  | error e =>
    obtain ⟨i, entry, hfails⟩ := exists_failsAt hread
    obtain ⟨entry', hfails'⟩ := hfails.of_map_parse?_eq hparse
    exact .error i hfails hfails'

theorem readAlike (h : List.Forall₂ (fun entry entry' => Recased entry.toList entry'.toList) entries entries') :
    ReadAlike entries entries' := by
  apply readAlike_of_map_parse?_eq
  induction h with
  | nil => rfl
  | cons hentry _ ih => rw [List.map_cons, List.map_cons, hentry.parse?_eq, ih]

end Registry

end EndpointGate
