import EndpointGate.Http.Message

/-!
# Reading error bodies again

An object of texts reads back as it was written, whatever the texts are (`ofText?_renderObject`), and so does
an error body (`parse?_render`). So the answer to a declined request tells what its body was made of
(`parse?_declined`).
-/

namespace EndpointGate

namespace Json

variable {members : List (String × String)} {fuel : Nat} {rest : List Char}

/-- A member as it is read back. -/
def valueMember (m : String × String) : Option String × Value := (some m.1, .string (some m.2))

/-! ## Texts -/

theorem quote_append (cs rest : List Char) :
    quote cs ++ rest = '"' :: (cs.flatMap escape ++ '"' :: rest) := by
  simp [quote]

theorem readText?_flatMap_escape (s : String) (rest : List Char) :
    readText? (s.toList.flatMap escape ++ '"' :: rest) = some (some s, rest) := by
  simp [readText?, readString?_flatMap_escape]

theorem readValue?_quote (fuel : Nat) (s : String) (rest : List Char) :
    readValue? (fuel + 1) (quote s.toList ++ rest) = some (.string (some s), rest) := by
  rw [quote_append]
  show (readText? _).map _ = _
  rw [readText?_flatMap_escape]
  rfl

/-! ## Members -/

theorem renderMember_append (m : String × String) (rest : List Char) :
    renderMember m.1 m.2 ++ rest =
      '"' :: (m.1.toList.flatMap escape ++ '"' :: (':' :: (quote m.2.toList ++ rest))) := by
  simp [renderMember, quote]

/-- After a comma other members follow. -/
theorem readMembers?_comma (fuel : Nat) (m : String × String) (cs : List Char) :
    readMembers? (fuel + 2) (renderMember m.1 m.2 ++ ',' :: cs) =
      (readMembers? (fuel + 1) cs).map fun (ms, rest) => (valueMember m :: ms, rest) := by
  rw [renderMember_append]
  show (readText? _).bind _ = _
  rw [readText?_flatMap_escape]
  show (readValue? (fuel + 1) _).bind _ = _
  rw [readValue?_quote]
  show (readMembers? (fuel + 1) cs).bind _ = _
  cases readMembers? (fuel + 1) cs <;> rfl

/-- The closing brace ends the members. -/
theorem readMembers?_brace (fuel : Nat) (m : String × String) (cs : List Char) :
    readMembers? (fuel + 2) (renderMember m.1 m.2 ++ '\x7d' :: cs) = some ([valueMember m], cs) := by
  rw [renderMember_append]
  show (readText? _).bind _ = _
  rw [readText?_flatMap_escape]
  show (readValue? (fuel + 1) _).bind _ = _
  rw [readValue?_quote]
  rfl

theorem readMembers?_renderMembers (hne : members ≠ []) (hfuel : members.length < fuel) :
    readMembers? fuel (renderMembers members ++ '\x7d' :: rest) = some (members.map valueMember, rest) := by
  induction members generalizing fuel with
  | nil => exact absurd rfl hne
  | cons m members ih =>
    rw [List.length_cons] at hfuel
    obtain ⟨fuel, rfl⟩ := Nat.exists_eq_add_of_le' (show 2 ≤ fuel by omega)
    cases members with
    | nil => exact readMembers?_brace fuel m rest
    | cons m' members =>
      have hnext := ih (List.cons_ne_nil m' members) (show (m' :: members).length < fuel + 1 by omega)
      rw [renderMembers, List.append_assoc, List.cons_append, readMembers?_comma, hnext]
      · rfl
      · exact List.cons_ne_nil m' members

/-! ## Objects -/

theorem exists_renderMembers_eq (hne : members ≠ []) : ∃ cs, renderMembers members = '"' :: cs := by
  cases members with
  | nil => exact absurd rfl hne
  | cons m members => cases members <;> exact ⟨_, rfl⟩

theorem length_le_renderMembers (members : List (String × String)) :
    members.length ≤ (renderMembers members).length := by
  induction members with
  | nil => exact Nat.zero_le _
  | cons m members ih =>
    cases members with
    | nil => simp [renderMembers, renderMember, quote]
    | cons m' members =>
      have hcons : renderMembers (m :: m' :: members) =
          renderMember m.1 m.2 ++ ',' :: renderMembers (m' :: members) := rfl
      simp only [hcons, List.length_append, List.length_cons] at ih ⊢
      omega

theorem readValue?_object (hne : members ≠ []) (hfuel : members.length < fuel) :
    readValue? (fuel + 1) ('\x7b' :: (renderMembers members ++ '\x7d' :: rest)) =
      some (.object (members.map valueMember), rest) := by
  have hread : readMembers? fuel (renderMembers members ++ '\x7d' :: rest) =
      some (members.map valueMember, rest) := readMembers?_renderMembers hne hfuel
  obtain ⟨cs, hcs⟩ := exists_renderMembers_eq hne
  rw [hcs, List.cons_append] at hread ⊢
  show (readMembers? fuel ('"' :: _)).map _ = _
  rw [hread]
  rfl

/-- An object of texts reads back as it was. -/
theorem ofText?_renderObject (members : List (String × String)) :
    Value.ofText? (renderObject members) = some (.object (members.map valueMember)) := by
  by_cases hne : members = []
  · subst hne
    rfl
  · -- a member takes at least one character, so that the fuel suffices for all members
    have hfuel : members.length < 2 * (renderObject members).length + 1 := by
      have hlength := length_le_renderMembers members
      rw [renderObject, String.length_ofList, List.length_append, List.length_cons]
      omega
    have hvalue := @readValue?_object _ _ [] hne hfuel
    have hlist : (renderObject members).toList = '\x7b' :: (renderMembers members ++ ['\x7d']) :=
      String.toList_ofList
    rw [Value.ofText?, hlist, hvalue]
    rfl

end Json

namespace ErrorBody

theorem ofMembers?_zip (b : ErrorBody) :
    ofMembers? ((names.zip b.texts).map Json.valueMember) = some b := by
  have hkeys : ((names.zip b.texts).map Json.valueMember).map (·.1) = names.map some := rfl
  unfold ofMembers?
  rw [hkeys, if_pos (by decide)]
  rfl

/-- An error body reads back as it was. -/
theorem parse?_render (b : ErrorBody) : parse? b.render = some b := by
  unfold parse? render
  rw [Json.ofText?_renderObject]
  exact ofMembers?_zip b

/-- **Error bodies.** An error body reads back as it was. What is read from the answer to a declined request
is its mark, the code and the title of declined requests, the message with all that it quotes, the status of
the answer in decimal digits, and the type. So answers that differ in mark or message differ in their text. -/
theorem parse?_declined :
    (∀ b : ErrorBody, parse? b.render = some b) ∧
    ∀ (id : String) (d : Declined),
      parse? (Http.Response.declined id d).body = some
        { id := id, code := Declined.code, reason := Declined.reason, message := d.message,
          status := toString (Http.Response.declined id d).status, kind := standardKind } ∧
      ∀ (id' : String) (d' : Declined),
        (Http.Response.declined id' d').body = (Http.Response.declined id d).body →
          id' = id ∧ d'.message = d.message := by
  have hread (id : String) (d : Declined) :
      parse? (Http.Response.declined id d).body = some (ofDeclined id d) := parse?_render _
  refine ⟨parse?_render, fun id d => ⟨hread id d, fun id' d' hbody => ?_⟩⟩
  have hsame : some (ofDeclined id' d') = some (ofDeclined id d) := by
    rw [← hread id' d', hbody, hread id d]
  rw [Option.some_inj, ofDeclined, ofDeclined, ErrorBody.mk.injEq] at hsame
  exact ⟨hsame.1, hsame.2.2.2.1⟩

end ErrorBody

end EndpointGate
