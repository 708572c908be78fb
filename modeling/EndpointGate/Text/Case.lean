/-!
# Letter case in ASCII

Case mappings that change ASCII letters only.
-/

namespace EndpointGate.Text

/-- The upper-case form of an ASCII letter; any other character is itself. -/
def asciiUpper (c : Char) : Char :=
  if 'a' ≤ c ∧ c ≤ 'z' then Char.ofNat (c.toNat - 32) else c

/-- The lower-case form of an ASCII letter; any other character is itself. -/
def asciiLower (c : Char) : Char :=
  if 'A' ≤ c ∧ c ≤ 'Z' then Char.ofNat (c.toNat + 32) else c

/-- `asciiUpper` on every character of a string. -/
def asciiUppercase (s : String) : String := String.ofList (s.toList.map asciiUpper)

/-- `asciiLower` on every character of a string. -/
def asciiLowercase (s : String) : String := String.ofList (s.toList.map asciiLower)

@[simp] theorem toList_asciiUppercase (s : String) :
    (asciiUppercase s).toList = s.toList.map asciiUpper := by simp [asciiUppercase]

@[simp] theorem toList_asciiLowercase (s : String) :
    (asciiLowercase s).toList = s.toList.map asciiLower := by simp [asciiLowercase]

end EndpointGate.Text
