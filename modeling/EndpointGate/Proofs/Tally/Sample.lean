import EndpointGate.Proofs.Text.Runs
import EndpointGate.Tally.Exposition
import Mathlib.Data.List.Basic

/-!
# Samples of an exposition

A line of an exposition that is no comment is a sample: the value of a series, whose pattern and label stand
between quotes, or the number of patterns. What is between quotes can be told from what follows, whatever it is
(`readLabel?_flatMap_escapeLabel`). So the samples of a tally are its counters in the order of their lines, one
for each, and the number of patterns (`samples_expose`).
-/

namespace EndpointGate.Tally

/-! ## Reading -/

/-- What a line tells: the value of a series or the number of patterns, as it is written. -/
inductive Sample where
  | declined (s : Series) (value : String)
  | patterns (value : String)
  deriving DecidableEq, Repr

/-- The character that an escape stands for, by the character behind the backslash. -/
def unescaped? (c : Char) : Option Char :=
  if c = 'n' then some '\n' else if c = '\\' ∨ c = '"' then some c else none

/-- A label value up to its closing quote, and the text behind the quote. -/
def readLabel? : List Char → Option (List Char × List Char)
  | [] => none
  | '"' :: rest => some ([], rest)
  | '\\' :: c :: rest =>
    (unescaped? c).bind fun d => (readLabel? rest).map fun (value, left) => (d :: value, left)
  | c :: rest => (readLabel? rest).map fun (value, left) => (c :: value, left)

/-- The series of a line and its value. -/
def readDeclined? (stem : String) (line : List Char) : Option Sample := do
  let rest ← line.dropPrefix? (declinedName stem ++ "\x7bmethod=\"").toList
  let (label, rest) ← readLabel? rest
  let rest ← rest.dropPrefix? ",pattern=\"".toList
  let (pattern, rest) ← readLabel? rest
  let value ← rest.dropPrefix? "\x7d ".toList
  return .declined ⟨String.ofList pattern, String.ofList label⟩ (String.ofList value)

/-- The number of patterns on a line. -/
def readPatterns? (stem : String) (line : List Char) : Option Sample :=
  (line.dropPrefix? (patternsName stem ++ " ").toList).map fun value => .patterns (String.ofList value)

def readSample? (stem : String) (line : List Char) : Option Sample :=
  (readDeclined? stem line).or (readPatterns? stem line)

/-- The lines of a text that are neither empty nor comments. -/
def sampleLines (text : List Char) : List (List Char) :=
  (Text.fields (· == '\n') text).filter fun line => line.head? != some '#'

/-- What the lines of a text tell, of those that are neither empty nor comments. -/
def samples (stem text : String) : List (Option Sample) :=
  (sampleLines text.toList).map (readSample? stem)

variable {stem name help type value : String} {t : Tally} {line : List Char} {c : Char}

/-! ## Label values -/

theorem readLabel?_cons (hquote : c ≠ '"') (hescape : c ≠ '\\') (rest : List Char) :
    readLabel? (c :: rest) = (readLabel? rest).map fun (value, left) => (c :: value, left) := by
  rw [readLabel?]
  · exact hquote
  · rintro _ _ rfl
    exact absurd rfl hescape

theorem readLabel?_escapeLabel (c : Char) (rest : List Char) :
    readLabel? (escapeLabel c ++ rest) = (readLabel? rest).map fun (value, left) => (c :: value, left) := by
  unfold escapeLabel
  split_ifs with hescape hquote hfeed
  · subst hescape
    rfl
  · subst hquote
    rfl
  · subst hfeed
    rfl
  · exact readLabel?_cons hquote hescape rest

theorem readLabel?_flatMap_escapeLabel (cs rest : List Char) :
    readLabel? (cs.flatMap escapeLabel ++ '"' :: rest) = some (cs, rest) := by
  induction cs with
  | nil => rfl
  | cons c cs ih =>
    rw [List.flatMap_cons, List.append_assoc, readLabel?_escapeLabel, ih]
    rfl

theorem not_feed_mem_escapeLabel (c : Char) : '\n' ∉ escapeLabel c := by
  unfold escapeLabel
  split_ifs with hescape hquote hfeed
  · decide
  · decide
  · decide
  · rw [List.mem_singleton]
    exact Ne.symm hfeed

/-! ## Lines -/

/-- The line of a series. -/
def declinedLine (stem : String) (s : Series) (value : String) : List Char :=
  (declinedName stem ++ "\x7bmethod=\"").toList ++ (s.label.toList.flatMap escapeLabel ++ '"' ::
    (",pattern=\"".toList ++ (s.pattern.toList.flatMap escapeLabel ++ '"' :: ("\x7d ".toList ++ value.toList))))

/-- The line of the number of patterns. -/
def patternsLine (stem value : String) : List Char := (patternsName stem ++ " ").toList ++ value.toList

theorem toList_counterLine (stem : String) (s : Series) (n : UInt64) :
    (counterLine (declinedName stem) s n).toList = declinedLine stem s (Number.shown n.toNat) ++ ['\n'] := by
  simp [counterLine, declinedLine, quoteLabel]

theorem dropPrefix?_append (p rest : List Char) : (p ++ rest).dropPrefix? p = some rest :=
  List.dropPrefix?_append_of_beq rest (beq_self_eq_true p)

theorem readSample?_declinedLine (stem : String) (s : Series) (value : String) :
    readSample? stem (declinedLine stem s value) = some (.declined s value) := by
  have hread : readDeclined? stem (declinedLine stem s value) = some (.declined s value) := by
    unfold readDeclined? declinedLine
    rw [dropPrefix?_append]
    show (readLabel? _).bind _ = _
    rw [readLabel?_flatMap_escapeLabel]
    show (List.dropPrefix? _ _).bind _ = _
    rw [dropPrefix?_append]
    show (readLabel? _).bind _ = _
    rw [readLabel?_flatMap_escapeLabel]
    show (List.dropPrefix? _ _).bind _ = _
    rw [dropPrefix?_append]
    simp
  rw [readSample?, hread, Option.some_or]

/-- The two names differ behind the stem. -/
theorem readDeclined?_patternsLine (stem value : String) : readDeclined? stem (patternsLine stem value) = none := by
  have hnone : (patternsLine stem value).dropPrefix? (declinedName stem ++ "\x7bmethod=\"").toList = none := by
    rw [Option.eq_none_iff_forall_ne_some]
    intro rest hrest
    obtain ⟨p, hline, hp⟩ := List.dropPrefix?_eq_some_iff.1 hrest
    rw [beq_iff_eq.1 hp] at hline
    simp [patternsLine, patternsName, declinedName] at hline
  unfold readDeclined?
  rw [hnone]
  rfl

theorem readSample?_patternsLine (stem value : String) :
    readSample? stem (patternsLine stem value) = some (.patterns value) := by
  rw [readSample?, readDeclined?_patternsLine, Option.none_or, readPatterns?, patternsLine, dropPrefix?_append,
    Option.map_some, String.ofList_toList]

/-! ## Texts -/

theorem exists_cons_of_isMetricName (h : isMetricName name = true) :
    ∃ c cs, name.toList = c :: cs ∧ isNameStart c = true ∧
      ∀ d ∈ cs, (isNameStart d || d.isDigit) = true := by
  unfold isMetricName at h
  cases hname : name.toList with
  | nil =>
    rw [hname] at h
    nomatch h
  | cons c cs =>
    rw [hname, Bool.and_eq_true, List.all_eq_true] at h
    exact ⟨c, cs, rfl, h⟩

theorem not_feed_mem_of_isMetricName (h : isMetricName name = true) : '\n' ∉ name.toList := by
  obtain ⟨c, cs, hname, hc, hcs⟩ := exists_cons_of_isMetricName h
  rw [hname, List.mem_cons]
  rintro (rfl | hmem)
  · exact absurd hc (by decide)
  · exact absurd (hcs _ hmem) (by decide)

/-- A line that a metric's name begins is neither empty nor a comment. -/
theorem isSampleLine_of_isMetricName (h : isMetricName name = true) (tail : String) (rest : List Char) :
    (name ++ tail).toList ++ rest ≠ [] ∧ ((name ++ tail).toList ++ rest).head? ≠ some '#' := by
  obtain ⟨c, cs, hname, hc, -⟩ := exists_cons_of_isMetricName h
  rw [String.toList_append, hname, List.append_assoc, List.cons_append]
  refine ⟨List.cons_ne_nil _ _, ?_⟩
  rintro ⟨⟩
  exact absurd hc (by decide)

theorem fields_append_feed (hline : '\n' ∉ line) (hne : line ≠ []) (rest : List Char) :
    Text.fields (· == '\n') (line ++ '\n' :: rest) = line :: Text.fields (· == '\n') rest := by
  rw [Text.fields_append_cons rfl, Text.fields_of_run hne]
  · rfl
  · intro c hc
    rw [beq_eq_false_iff_ne]
    rintro rfl
    exact hline hc

theorem sampleLines_comment (hline : '\n' ∉ line) (hhead : line.head? = some '#') (rest : List Char) :
    sampleLines (line ++ '\n' :: rest) = sampleLines rest := by
  have hne : line ≠ [] := by
    rintro rfl
    nomatch hhead
  unfold sampleLines
  rw [fields_append_feed hline hne, List.filter_cons, if_neg (by simp [hhead])]

theorem sampleLines_cons (hline : '\n' ∉ line) (hne : line ≠ []) (hhead : line.head? ≠ some '#')
    (rest : List Char) : sampleLines (line ++ '\n' :: rest) = line :: sampleLines rest := by
  unfold sampleLines
  rw [fields_append_feed hline hne, List.filter_cons, if_pos (by simpa using hhead)]

theorem sampleLines_header (hname : '\n' ∉ name.toList) (hhelp : '\n' ∉ help.toList)
    (htype : '\n' ∉ type.toList) (rest : List Char) :
    sampleLines ((header name help type).toList ++ rest) = sampleLines rest := by
  have htext : (header name help type).toList ++ rest =
      ("# HELP ".toList ++ (name.toList ++ ' ' :: help.toList)) ++ '\n' ::
        (("# TYPE ".toList ++ (name.toList ++ ' ' :: type.toList)) ++ '\n' :: rest) := by
    simp [header]
  rw [htext, sampleLines_comment _ rfl, sampleLines_comment _ rfl]
  · simpa [hname] using htype
  · simpa [hname] using hhelp

theorem isDigit_of_mem_shown {n : Nat} {c : Char} (h : c ∈ (Number.shown n).toList) : c.isDigit = true := by
  unfold Number.shown at h
  rw [Nat.toString_eq_repr, Nat.repr_eq_ofList_toDigits, String.toList_ofList] at h
  exact Nat.isDigit_of_mem_toDigits (by decide) (by decide) h

theorem not_feed_mem_shown (n : Nat) : '\n' ∉ (Number.shown n).toList := by
  intro hmem
  exact absurd (isDigit_of_mem_shown hmem) (by decide)

theorem not_feed_mem_shownInt (n : Int) : '\n' ∉ (shownInt n).toList := by
  unfold shownInt
  rw [String.toList_append, List.mem_append, not_or]
  refine ⟨?_, not_feed_mem_shown _⟩
  split <;> decide

theorem not_feed_mem_declinedLine (h : '\n' ∉ (declinedName stem).toList) (s : Series)
    (hvalue : '\n' ∉ value.toList) : '\n' ∉ declinedLine stem s value := by
  simp [declinedLine, h, hvalue, not_feed_mem_escapeLabel]

theorem sampleLines_counterLines (h : isMetricName (declinedName stem) = true)
    (cs : List (Series × UInt64)) (rest : List Char) :
    sampleLines (cs.flatMap (fun c => (counterLine (declinedName stem) c.1 c.2).toList) ++ rest) =
      cs.map (fun c => declinedLine stem c.1 (Number.shown c.2.toNat)) ++ sampleLines rest := by
  induction cs with
  | nil => rfl
  | cons c cs ih =>
    have hfeed := not_feed_mem_declinedLine (not_feed_mem_of_isMetricName h) c.1 (not_feed_mem_shown c.2.toNat)
    have hsample : declinedLine stem c.1 (Number.shown c.2.toNat) ≠ [] ∧
        (declinedLine stem c.1 (Number.shown c.2.toNat)).head? ≠ some '#' :=
      isSampleLine_of_isMetricName h _ _
    rw [List.flatMap_cons, toList_counterLine, List.append_assoc, List.append_assoc, List.singleton_append,
      sampleLines_cons hfeed hsample.1 hsample.2, ih]
    rfl

theorem sampleLines_counterText (h : isMetricName (declinedName t.stem) = true) (rest : List Char) :
    sampleLines (t.counterText.toList ++ rest) =
      t.sortedCounters.map (fun c => declinedLine t.stem c.1 (Number.shown c.2.toNat)) ++ sampleLines rest := by
  unfold counterText
  split
  · rename_i hempty
    have hnone : t.sortedCounters = [] := by
      unfold sortedCounters
      rw [List.isEmpty_iff.1 hempty, List.mergeSort_nil]
    rw [hnone]
    rfl
  · rw [String.toList_append, List.append_assoc,
      sampleLines_header (not_feed_mem_of_isMetricName h) (by decide) (by decide), String.toList_join,
      List.flatMap_map]
    exact sampleLines_counterLines h _ _

theorem sampleLines_patternsText (h : isMetricName (patternsName t.stem) = true) :
    sampleLines t.patternsText.toList = [patternsLine t.stem (shownInt t.patterns.toInt)] := by
  have hfeed : '\n' ∉ patternsLine t.stem (shownInt t.patterns.toInt) := by
    simp [patternsLine, not_feed_mem_of_isMetricName h, not_feed_mem_shownInt]
  have hsample : patternsLine t.stem (shownInt t.patterns.toInt) ≠ [] ∧
      (patternsLine t.stem (shownInt t.patterns.toInt)).head? ≠ some '#' :=
    isSampleLine_of_isMetricName h _ _
  have htext : t.patternsText.toList =
      (header (patternsName t.stem) "Number of configured deprecated endpoint patterns" "gauge").toList ++
        (patternsLine t.stem (shownInt t.patterns.toInt) ++ '\n' :: []) := by
    simp [patternsText, patternsLine]
  rw [htext, sampleLines_header (not_feed_mem_of_isMetricName h) (by decide) (by decide),
    sampleLines_cons hfeed hsample.1 hsample.2]
  rfl

/-- The samples of a tally are its counters, in the order of their lines, and the number of patterns. -/
theorem samples_expose (hdeclined : isMetricName (declinedName t.stem) = true)
    (hpatterns : isMetricName (patternsName t.stem) = true) :
    samples t.stem t.expose =
      t.sortedCounters.map (fun c => some (.declined c.1 (Number.shown c.2.toNat))) ++
        [some (.patterns (shownInt t.patterns.toInt))] := by
  unfold samples expose
  rw [String.toList_append, sampleLines_counterText hdeclined, sampleLines_patternsText hpatterns,
    List.map_append, List.map_map, List.map_singleton, readSample?_patternsLine]
  congr 1
  exact List.map_congr_left fun c _ => readSample?_declinedLine t.stem c.1 _

end EndpointGate.Tally
