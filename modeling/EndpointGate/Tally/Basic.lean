import EndpointGate.Text.Case
import EndpointGate.Text.Hash

/-!
# Tallies

How often requests were declined, counted for each pattern and method label, and how many patterns are
declared. A counter is found by a hash of the two texts, which are not compared. So series with the same
hash share a counter, and it keeps the texts of its first use. Counters have 64 bits and start again from
zero; the number of patterns is a signed 64-bit number.
-/

namespace EndpointGate

/-- What a counter counts: declines by one pattern under one method label. -/
structure Series where
  pattern : String
  label : String
  deriving DecidableEq, Repr, Inhabited

/-- What a counter is found by: the hash of the octets of the pattern and then of the label. -/
def Series.key (s : Series) : UInt64 := Text.hash (s.pattern ++ s.label)

/-- The counters of a gate. -/
structure Tally where
  /-- What the names of both metrics start with. -/
  stem : String
  /-- The counters in order of their first use. -/
  counters : List (Series × UInt64)
  /-- The number of declared patterns. -/
  patterns : Int64
  deriving DecidableEq, Repr, Inhabited

namespace Tally

/-- Methods that have a label of their own. -/
def labelledMethods : List String :=
  ["GET", "HEAD", "POST", "PUT", "DELETE", "CONNECT", "OPTIONS", "TRACE", "PATCH"]

/-- The label of every other method. -/
def otherLabel : String := "OTHER"

/-- The label under which a method is counted, whatever its letter case. -/
def labelOf (method : String) : String :=
  if Text.asciiUppercase method ∈ labelledMethods then Text.asciiUppercase method else otherLabel

/-- The name of the counters' metric. -/
def declinedName (stem : String) : String := stem ++ "_declined_total"

/-- The name of the metric for the number of patterns. -/
def patternsName (stem : String) : String := stem ++ "_patterns"

def isNameStart (c : Char) : Bool := c.isAlpha || c == '_' || c == ':'

def isMetricName (s : String) : Bool :=
  match s.toList with
  | [] => false
  | c :: cs => isNameStart c && cs.all fun d => isNameStart d || d.isDigit

/-- The stem of the metric names, unless another one is asked for. -/
def defaultStem : String := "deprecated_api"

/-- No counter yet. -/
def ofStem (stem : String) : Tally := ⟨stem, [], 0⟩

/-- No counter yet, if the stem makes metric names. -/
def ofStem? (stem : String) : Option Tally :=
  if isMetricName (declinedName stem) ∧ isMetricName (patternsName stem) then some (ofStem stem)
  else none

/-- The counter that the key of a series finds, where there is one. -/
def count? (t : Tally) (s : Series) : Option UInt64 :=
  (t.counters.find? fun c => c.1.key == s.key).map (·.2)

/-- The counter that the key of a series finds, zero where there is none. -/
def count (t : Tally) (s : Series) : UInt64 := (t.count? s).getD 0

/-- Adds to the counter that the key of a series finds. Where there is none, the series gets one. -/
def addTo (s : Series) (n : UInt64) : List (Series × UInt64) → List (Series × UInt64)
  | [] => [(s, n)]
  | (s', m) :: rest => if s'.key = s.key then (s', m + n) :: rest else (s', m) :: addTo s n rest

/-- Makes sure that the key of a series finds a counter. -/
def touch (t : Tally) (s : Series) : Tally := { t with counters := addTo s 0 t.counters }

/-- Counts a request that a pattern declined. -/
def record (t : Tally) (pattern method : String) : Tally :=
  { t with counters := addTo ⟨pattern, labelOf method⟩ 1 t.counters }

/-- Sets the number of patterns. -/
def setPatterns (t : Tally) (n : UInt64) : Tally := { t with patterns := n.toInt64 }

/-- Adding to a series changes the counter that its key finds, and no other one. -/
theorem count?_with_addTo (t : Tally) (s s' : Series) (n : UInt64) :
    count? { t with counters := addTo s n t.counters } s' =
      if s'.key = s.key then some (t.count s' + n) else t.count? s' := by
  obtain ⟨stem, cs, patterns⟩ := t
  simp only [count, count?]
  induction cs with
  | nil =>
    by_cases h : s'.key = s.key
    · simp [addTo, h]
    · simp [addTo, h, beq_false_of_ne (Ne.symm h)]
  | cons c cs ih =>
    obtain ⟨k, m⟩ := c
    by_cases hk : k.key = s.key
    · by_cases h : s'.key = s.key
      · simp [addTo, hk, h]
      · simp [addTo, hk, h, beq_false_of_ne (Ne.symm h)]
    · by_cases h : k.key = s'.key
      · have hs : s'.key ≠ s.key := h ▸ hk
        simp [addTo, h, hs]
      · simpa [addTo, hk, h] using ih

theorem count_with_addTo (t : Tally) (s s' : Series) (n : UInt64) :
    count { t with counters := addTo s n t.counters } s' =
      t.count s' + if s'.key = s.key then n else 0 := by
  rw [count, count?_with_addTo]
  split
  · rfl
  · exact (UInt64.add_zero _).symm

theorem count_touch (t : Tally) (s s' : Series) : (t.touch s).count s' = t.count s' := by
  simp [touch, count_with_addTo]

theorem count_record (t : Tally) (pattern method : String) (s : Series) :
    (t.record pattern method).count s =
      t.count s + if s.key = Series.key ⟨pattern, labelOf method⟩ then 1 else 0 :=
  count_with_addTo t ⟨pattern, labelOf method⟩ s 1

end Tally

end EndpointGate
