import EndpointGate.Number.Shortest
import EndpointGate.Tally.Basic

/-!
# Exposition of a tally

The text a monitoring system collects: for each metric that has a value a line that explains it, a line
with its type and a line for each value. Counters stand in order of label and pattern.
-/

namespace EndpointGate.Tally

/-- The form of a character in a label value. -/
def escapeLabel (c : Char) : List Char :=
  if c = '\\' then ['\\', '\\']
  else if c = '"' then ['\\', '"']
  else if c = '\n' then ['\\', 'n']
  else [c]

/-- A label value between quotes. -/
def quoteLabel (s : String) : String :=
  String.ofList ('"' :: s.toList.flatMap escapeLabel ++ ['"'])

/-- The order of the lines: by label, then by pattern. -/
def Series.before (s t : Series) : Bool :=
  s.label < t.label || (s.label == t.label && (s.pattern < t.pattern || s.pattern == t.pattern))

/-- The counters in the order of their lines. -/
def sortedCounters (t : Tally) : List (Series × UInt64) :=
  t.counters.mergeSort fun a b => Series.before a.1 b.1

def counterLine (name : String) (s : Series) (n : UInt64) : String :=
  name ++ "\x7bmethod=" ++ quoteLabel s.label ++ ",pattern=" ++ quoteLabel s.pattern ++ "\x7d " ++
    Number.shown n.toNat ++ "\n"

/-- The digits of a signed number. -/
def shownInt (n : Int) : String := (if n < 0 then "-" else "") ++ Number.shown n.natAbs

/-- The two lines that introduce a metric. -/
def header (name help type : String) : String :=
  "# HELP " ++ name ++ " " ++ help ++ "\n# TYPE " ++ name ++ " " ++ type ++ "\n"

/-- The part of the text about the counters. -/
def counterText (t : Tally) : String :=
  if t.counters.isEmpty then ""
  else
    header (declinedName t.stem)
        "Total number of requests declined because they hit a deprecated endpoint" "counter" ++
      String.join (t.sortedCounters.map fun c => counterLine (declinedName t.stem) c.1 c.2)

/-- The part of the text about the number of patterns. -/
def patternsText (t : Tally) : String :=
  header (patternsName t.stem) "Number of configured deprecated endpoint patterns" "gauge" ++
    patternsName t.stem ++ " " ++ shownInt t.patterns.toInt ++ "\n"

/-- The whole text. -/
def expose (t : Tally) : String := t.counterText ++ t.patternsText

def metricNames (t : Tally) : List String :=
  (if t.counters.isEmpty then [] else [declinedName t.stem]) ++ [patternsName t.stem]

end EndpointGate.Tally
