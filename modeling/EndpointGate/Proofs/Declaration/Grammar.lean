import EndpointGate.Declaration
import EndpointGate.Proofs.MethodSet.Tokens
import EndpointGate.Proofs.Registry.Insertion
import EndpointGate.Proofs.Text.Runs

/-!
# The grammar of declarations

`IsWritten entry pattern body` says how a declaration is written: blanks, a pattern, blanks and, if there is
a list of methods, what stands between its brackets and blanks again. `split?` finds just these parts
(`split?_eq_some_iff`), so that a text is written in one way at most. Blanks around it do not matter
(`isWritten_trim_iff`). `parse_iff_isWritten` says which texts are read, what they are read as, and what is
said about the others.
-/

namespace EndpointGate

namespace Declaration

open Text

/-- Every character of the text is blank. -/
abbrev IsBlankText (cs : List Char) : Prop := ∀ c ∈ cs, isBlank c = true

/-- What follows the pattern of a declaration: blanks, and maybe a list between brackets and blanks. -/
inductive IsTail : List Char → Option (List Char) → Prop
  | bare {w : List Char} (hw : IsBlankText w) : IsTail w none
  | listed {w body w' : List Char} (hw : IsBlankText w) (hbody : ∀ c ∈ body, isBracket c = false)
      (hw' : IsBlankText w') : IsTail (w ++ '[' :: body ++ ']' :: w') (some body)

/-- The text is a declaration with this pattern and, between brackets, this list. -/
inductive IsWritten : List Char → List Char → Option (List Char) → Prop
  | intro {w pattern tail : List Char} {body : Option (List Char)} (hw : IsBlankText w)
      (hne : pattern ≠ []) (hpattern : ∀ c ∈ pattern, isPatternChar c = true) (htail : IsTail tail body) :
      IsWritten (w ++ pattern ++ tail) pattern body

variable {cs pattern tail : List Char} {body : Option (List Char)}

/-! ## The list -/

/-- What stands behind the blanks that follow a pattern. -/
def splitList? (cs : List Char) : Option (Option (List Char)) :=
  match cs with
  | [] => some none
  | c :: inner =>
    if c = '[' then
      match inner.dropWhile (fun d => !isBracket d) with
      | [] => none
      | d :: tail =>
        if d = ']' ∧ tail.all isBlank then some (some (inner.takeWhile fun d => !isBracket d)) else none
    else none

theorem split?_eq (cs : List Char) :
    split? cs =
      if (trimStart cs).takeWhile isPatternChar = [] then none
      else
        (splitList? (trimStart ((trimStart cs).dropWhile isPatternChar))).map
          ((trimStart cs).takeWhile isPatternChar, ·) := by
  unfold split? splitList?
  dsimp only
  generalize trimStart ((trimStart cs).dropWhile isPatternChar) = rest
  congr 1
  cases rest with
  | nil => rfl
  | cons c inner =>
    dsimp only
    rw [apply_ite (Option.map _)]
    congr 1
    cases inner.dropWhile fun d => !isBracket d with
    | nil => rfl
    | cons d tail =>
      rw [apply_ite (Option.map _)]
      rfl

theorem takeWhile_append_dropWhile_blank (cs : List Char) :
    IsBlankText (cs.takeWhile isBlank) ∧ cs.takeWhile isBlank ++ trimStart cs = cs :=
  ⟨fun _ hc => List.mem_takeWhile_imp hc, List.takeWhile_append_dropWhile⟩

theorem isTail_of_splitList? (h : splitList? (trimStart cs) = some body) : IsTail cs body := by
  obtain ⟨hw, hcs⟩ := takeWhile_append_dropWhile_blank cs
  cases hrest : trimStart cs with
  | nil =>
    rw [hrest] at h hcs
    obtain rfl := Option.some.inj h
    rw [← hcs, List.append_nil]
    exact .bare hw
  | cons c inner =>
    rw [hrest] at h hcs
    obtain ⟨rfl, hlist⟩ := Option.ite_none_right_eq_some.1 h
    cases hdrop : inner.dropWhile fun d => !isBracket d with
    | nil =>
      rw [hdrop] at hlist
      nomatch hlist
    | cons d tail =>
      rw [hdrop] at hlist
      obtain ⟨⟨rfl, hblank⟩, hbody⟩ := Option.ite_none_right_eq_some.1 hlist
      obtain rfl := Option.some.inj hbody
      have hinner : inner.takeWhile (fun d => !isBracket d) ++ ']' :: tail = inner := by
        rw [← hdrop, List.takeWhile_append_dropWhile]
      have hinside : ∀ d ∈ inner.takeWhile (fun d => !isBracket d), isBracket d = false := by
        intro d hd
        simpa using List.mem_takeWhile_imp hd
      have htail := IsTail.listed hw hinside (List.all_eq_true.1 hblank)
      rwa [List.append_assoc, List.cons_append, hinner, hcs] at htail

theorem trimStart_append {w : List Char} (hw : IsBlankText w) (hcs : ∀ c ∈ cs.head?, isBlank c = false) :
    trimStart (w ++ cs) = cs :=
  dropWhile_append_of_head? hw hcs

theorem splitList?_of_isTail (h : IsTail cs body) : splitList? (trimStart cs) = some body := by
  cases h with
  | bare hw =>
    have htrim := @trimStart_append [] _ hw nofun
    rw [List.append_nil] at htrim
    rw [htrim]
    rfl
  | @listed w body w' hw hbody hw' =>
    have hopen : ∀ c ∈ ('[' :: (body ++ ']' :: w')).head?, isBlank c = false := by
      rintro _ ⟨⟩
      decide
    have hinside : ∀ c ∈ body, (!isBracket c) = true := fun c hc => by rw [hbody c hc]; rfl
    have hclose : ∀ c ∈ (']' :: w').head?, (!isBracket c) = false := by
      rintro _ ⟨⟩
      decide
    rw [List.append_assoc, List.cons_append, trimStart_append hw hopen]
    unfold splitList?
    dsimp only
    rw [if_pos rfl, dropWhile_append_of_head? hinside hclose]
    dsimp only
    rw [if_pos ⟨rfl, List.all_eq_true.2 hw'⟩, takeWhile_append_of_head? hinside hclose]

/-! ## The whole declaration -/

theorem isPatternChar_iff {c : Char} :
    isPatternChar c = true ↔ isBlank c = false ∧ isBracket c = false := by
  simp [isPatternChar]

/-- A pattern ends where its tail begins. -/
theorem IsTail.head?_not_isPatternChar (h : IsTail cs body) : ∀ c ∈ cs.head?, isPatternChar c = false := by
  have hend {c : Char} (hc : isBlank c = true) : isPatternChar c = false := by simp [isPatternChar, hc]
  cases h with
  | bare hw => exact fun c hc => hend (hw c (List.mem_of_mem_head? hc))
  | @listed w body w' hw hbody hw' =>
    cases w with
    | nil =>
      rintro _ ⟨⟩
      decide
    | cons c w =>
      rintro _ ⟨⟩
      exact hend (hw c List.mem_cons_self)

theorem split?_of_isWritten (h : IsWritten cs pattern body) : split? cs = some (pattern, body) := by
  cases h with
  | @intro w pattern tail body hw hne hpattern htail =>
    have hhead : ∀ c ∈ (pattern ++ tail).head?, isBlank c = false := by
      cases pattern with
      | nil => exact absurd rfl hne
      | cons c pattern =>
        rintro _ ⟨⟩
        exact (isPatternChar_iff.1 (hpattern c List.mem_cons_self)).1
    have hend := htail.head?_not_isPatternChar
    rw [split?_eq, List.append_assoc, trimStart_append hw hhead, takeWhile_append_of_head? hpattern hend,
      dropWhile_append_of_head? hpattern hend, if_neg hne, splitList?_of_isTail htail]
    rfl

theorem isWritten_of_split? (h : split? cs = some (pattern, body)) : IsWritten cs pattern body := by
  rw [split?_eq] at h
  obtain ⟨hne, h⟩ := Option.ite_none_left_eq_some.1 h
  obtain ⟨body', hlist, hpair⟩ := Option.map_eq_some_iff.1 h
  obtain ⟨rfl, rfl⟩ := Prod.mk.inj hpair
  obtain ⟨hw, hcs⟩ := takeWhile_append_dropWhile_blank cs
  have htail := isTail_of_splitList? hlist
  have hwritten := IsWritten.intro hw hne (fun _ hc => List.mem_takeWhile_imp hc) htail
  rwa [List.append_assoc, List.takeWhile_append_dropWhile, hcs] at hwritten

theorem split?_eq_some_iff : split? cs = some (pattern, body) ↔ IsWritten cs pattern body :=
  ⟨isWritten_of_split?, split?_of_isWritten⟩

/-! ## Blanks around a declaration -/

theorem IsTail.trimEnd (h : IsTail tail body) : IsTail (Text.trimEnd tail) body := by
  cases h with
  | bare hw =>
    rw [trimEnd_eq_nil_iff.2 hw]
    exact .bare nofun
  | @listed w body w' hw hbody hw' =>
    have hlast : ∀ c ∈ (w ++ '[' :: body ++ [']']).getLast?, isBlank c = false := by
      rw [List.getLast?_concat]
      rintro _ ⟨⟩
      decide
    have hsplit : w ++ '[' :: body ++ ']' :: w' = w ++ '[' :: body ++ [']'] ++ w' := by simp
    rw [hsplit, trimEnd_append_of_blanks _ hw', trimEnd_eq_self hlast]
    exact .listed hw hbody nofun

theorem IsTail.append_blanks {w : List Char} (h : IsTail tail body) (hw : IsBlankText w) :
    IsTail (tail ++ w) body := by
  cases h with
  | bare hw' => exact .bare (List.forall_mem_append.2 ⟨hw', hw⟩)
  | listed hw' hbody hw'' =>
    rw [List.append_assoc]
    exact .listed hw' hbody (List.forall_mem_append.2 ⟨hw'', hw⟩)

theorem isWritten_trim_iff : IsWritten (trim cs) pattern body ↔ IsWritten cs pattern body := by
  constructor
  · intro h
    obtain ⟨w, w', hw, hw', hcs⟩ := exists_eq_append_trim cs
    generalize trim cs = core at h hcs
    subst hcs
    cases h with
    | intro hw₁ hne hpattern htail =>
      have hwritten := IsWritten.intro (List.forall_mem_append.2 ⟨hw, hw₁⟩) hne hpattern
        (htail.append_blanks hw')
      simpa only [List.append_assoc] using hwritten
  · intro h
    cases h with
    | @intro w pattern tail body hw hne hpattern htail =>
      have hplain : ∀ c ∈ pattern, isBlank c = false := fun c hc => (isPatternChar_iff.1 (hpattern c hc)).1
      have hhead : ∀ c ∈ (pattern ++ tail).head?, isBlank c = false := by
        rw [List.head?_append_of_ne_nil _ hne]
        exact fun c hc => hplain c (List.mem_of_mem_head? hc)
      have htrim : trim (w ++ pattern ++ tail) = [] ++ pattern ++ trimEnd tail := by
        rw [trim, List.append_assoc, trimStart_append hw hhead,
          trimEnd_append _ fun c hc => hplain c (List.mem_of_getLast? hc)]
        rfl
      rw [htrim]
      exact .intro (List.forall_mem_nil _) hne hpattern htail.trimEnd

theorem split?_trim (cs : List Char) : split? (trim cs) = split? cs := by
  apply Option.ext
  rintro ⟨pattern, body⟩
  rw [split?_eq_some_iff, split?_eq_some_iff, isWritten_trim_iff]

theorem parse?_trimmed (entry : String) : parse? (trimmed entry) = parse? entry := by
  rw [parse?, parse?, trimmed, String.toList_ofList, split?_trim]

/-! ## Methods -/

/-- The methods are those of the list between the brackets: every one without a list, otherwise those that
its runs between blanks and commas name. -/
def AreListed (ms : MethodSet) : Option (List Char) → Prop
  | none => ms = .any
  | some body => ∃ tokens, Runs isSeparator body tokens ∧ ms.IsNamedBy tokens

theorem not_isBlank_of_mem_fields {body t : List Char} (ht : t ∈ fields isSeparator body) :
    t ≠ [] ∧ ∀ c ∈ t, isBlank c = false := by
  obtain ⟨hmem, hne⟩ := List.mem_filter.1 ht
  refine ⟨by simpa using hne, fun c hc => ?_⟩
  have hsep := not_isEnd_of_mem_pieces hmem hc
  exact (Bool.or_eq_false_iff.1 hsep).1

theorem areListed_iff {ms : MethodSet} : AreListed ms body ↔ methodsOf body = ms := by
  cases body with
  | none => exact eq_comm
  | some body =>
    rw [methodsOf, ← MethodSet.isNamedBy_iff fun _ => not_isBlank_of_mem_fields]
    constructor
    · rintro ⟨tokens, hruns, hnamed⟩
      rwa [runs_iff.1 hruns]
    · exact fun hnamed => ⟨_, runs_iff.2 rfl, hnamed⟩

/-! ## Reading -/

/-- The text is a declaration. -/
def IsDeclaration (entry : String) : Prop := ∃ pattern body, IsWritten entry.toList pattern body

theorem parse?_eq_some_iff {entry : String} {d : Declaration} :
    parse? entry = some d ↔
      ∃ pattern body, IsWritten entry.toList pattern body ∧ d.pattern = String.ofList pattern ∧
        AreListed d.methods body := by
  unfold parse?
  rw [Option.map_eq_some_iff]
  constructor
  · rintro ⟨⟨pattern, body⟩, hsplit, rfl⟩
    exact ⟨pattern, body, split?_eq_some_iff.1 hsplit, rfl, areListed_iff.2 rfl⟩
  · rintro ⟨pattern, body, hwritten, hpattern, hmethods⟩
    refine ⟨(pattern, body), split?_eq_some_iff.2 hwritten, ?_⟩
    show Declaration.mk (String.ofList pattern) (methodsOf body) = d
    rw [areListed_iff.1 hmethods, ← hpattern]

theorem parse?_eq_none_iff {entry : String} : parse? entry = none ↔ ¬IsDeclaration entry := by
  unfold parse?
  rw [Option.map_eq_none_iff, Option.eq_none_iff_forall_ne_some]
  constructor
  · rintro h ⟨pattern, body, hwritten⟩
    exact h _ (split?_eq_some_iff.2 hwritten)
  · rintro h ⟨pattern, body⟩ hsplit
    exact h ⟨pattern, body, split?_eq_some_iff.1 hsplit⟩

theorem parse_eq_ok_iff {entry : String} {d : Declaration} :
    parse entry = .ok d ↔ parse? entry = some d := by
  unfold parse
  cases parse? entry <;> simp

theorem parse_eq_error_iff {entry : String} {e : SettingsError} :
    parse entry = .error e ↔ ¬IsDeclaration entry ∧ e = .invalidDeclaration entry := by
  rw [← parse?_eq_none_iff]
  unfold parse
  cases parse? entry <;> simp [eq_comm]

end Declaration

namespace Registry

open Declaration

/-- Reading fails at the first text that is no declaration. -/
theorem insertAll_eq_error_iff {r : Registry} {entries : List String} {e : SettingsError} :
    r.insertAll entries = .error e ↔
      ∃ before entry after, entries = before ++ entry :: after ∧ (∀ x ∈ before, IsDeclaration x) ∧
        ¬IsDeclaration entry ∧ e = .invalidDeclaration entry := by
  induction entries generalizing r with
  | nil =>
    refine ⟨nofun, ?_⟩
    rintro ⟨before, entry, after, hentries, -⟩
    cases before <;> nomatch hentries
  | cons x entries ih =>
    rw [insertAll_cons]
    cases hx : parse x with
    | error e' =>
      obtain ⟨hno, rfl⟩ := parse_eq_error_iff.1 hx
      constructor
      · rintro ⟨⟩
        exact ⟨[], x, entries, rfl, nofun, hno, rfl⟩
      · rintro ⟨before, entry, after, hentries, hbefore, -, rfl⟩
        cases before with
        | nil =>
          obtain ⟨rfl, -⟩ := List.cons.inj hentries
          rfl
        | cons y before =>
          obtain ⟨rfl, -⟩ := List.cons.inj hentries
          exact absurd (hbefore x List.mem_cons_self) hno
    | ok d =>
      have hyes : IsDeclaration x := by
        by_contra hno
        rw [parse_eq_error_iff.2 ⟨hno, rfl⟩] at hx
        nomatch hx
      show (r.insert d.pattern d.methods).insertAll entries = _ ↔ _
      rw [ih]
      constructor
      · rintro ⟨before, entry, after, rfl, hbefore, hrest⟩
        exact ⟨x :: before, entry, after, rfl, List.forall_mem_cons.2 ⟨hyes, hbefore⟩, hrest⟩
      · rintro ⟨before, entry, after, hentries, hbefore, hno, he⟩
        cases before with
        | nil =>
          obtain ⟨rfl, -⟩ := List.cons.inj hentries
          exact absurd hyes hno
        | cons y before =>
          obtain ⟨-, rfl⟩ := List.cons.inj hentries
          exact ⟨before, entry, after, rfl, (List.forall_mem_cons.1 hbefore).2, hno, he⟩

theorem ofEntries_eq_error_iff {entries : List String} {e : SettingsError} :
    ofEntries entries = .error e ↔
      ∃ before entry after, entries = before ++ entry :: after ∧ (∀ x ∈ before, IsDeclaration x) ∧
        ¬IsDeclaration entry ∧ e = .invalidDeclaration entry :=
  insertAll_eq_error_iff

/-- A list with a text that is no declaration has a first one. -/
theorem exists_error_iff {entries : List String} :
    (∃ e, ofEntries entries = .error e) ↔ ∃ entry ∈ entries, ¬IsDeclaration entry := by
  constructor
  · rintro ⟨e, he⟩
    obtain ⟨before, entry, after, rfl, -, hno, -⟩ := ofEntries_eq_error_iff.1 he
    exact ⟨entry, List.mem_append_right before List.mem_cons_self, hno⟩
  · rintro ⟨entry, hentry, hno⟩
    cases hread : ofEntries entries with
    | error e => exact ⟨e, rfl⟩
    | ok r =>
      obtain ⟨ds, hds, -⟩ := insertAll_eq_ok_iff.1 hread
      have hnone := parse?_eq_none_iff.2 hno
      have hmem : none ∈ ds.map some := by
        rw [← hds, ← hnone]
        exact List.mem_map_of_mem hentry
      simp at hmem

end Registry

/-- **The grammar of declarations.** Reading accepts a text just if it is written as a declaration, which it
is in one way at most, and gives its pattern and the methods that are listed. Any other text is quoted; of a
list of texts it is the first one that is no declaration. -/
theorem Declaration.parse_iff_isWritten :
    (∀ entry d, parse entry = .ok d ↔
      ∃ pattern body, IsWritten entry.toList pattern body ∧ d.pattern = String.ofList pattern ∧
        AreListed d.methods body) ∧
    (∀ cs pattern pattern' body body', IsWritten cs pattern body → IsWritten cs pattern' body' →
      pattern = pattern' ∧ body = body') ∧
    (∀ entry e, parse entry = .error e ↔ ¬IsDeclaration entry ∧ e = .invalidDeclaration entry) ∧
    (∀ entries, (∃ e, Registry.ofEntries entries = .error e) ↔
      ∃ entry ∈ entries, ¬IsDeclaration entry) ∧
    ∀ entries e, Registry.ofEntries entries = .error e ↔
      ∃ before entry after, entries = before ++ entry :: after ∧ (∀ x ∈ before, IsDeclaration x) ∧
        ¬IsDeclaration entry ∧ e = .invalidDeclaration entry := by
  refine ⟨fun entry d => parse_eq_ok_iff.trans parse?_eq_some_iff, ?_, fun _ _ => parse_eq_error_iff,
    fun _ => Registry.exists_error_iff, fun _ _ => Registry.ofEntries_eq_error_iff⟩
  intro cs pattern pattern' body body' h h'
  have heq := (split?_of_isWritten h).symm.trans (split?_of_isWritten h')
  exact Prod.mk.inj (Option.some.inj heq)

end EndpointGate
