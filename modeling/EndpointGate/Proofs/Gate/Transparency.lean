import EndpointGate.Proofs.Gate.Answer

/-!
# A gate is transparent

A gate changes no answers but those to the requests that it declines, and whether it declines one does not
depend on the requests before: answering a request changes neither the router nor the registry
(`answer_after`), so in a run every request is answered as it would be alone (`answers_eq_map`).
`answers_behind_gate` compares a run behind a gate with the run of the router by itself.
-/

namespace EndpointGate.GatedRouter

/-- The answers to requests one after another. Every request comes with the mark that the answer gets if
the request is declined. -/
def answers (g : GatedRouter) : List (String × Http.Request) → List Http.Response
  | [] => []
  | (id, r) :: rs => (g.answer id r).1 :: (g.answer id r).2.answers rs

/-- The answer to a declined request as it is sent. To a `HEAD` request it has no body, unless the path
has the form of a routed one and no endpoint has it. -/
def declinedAnswer (router : Router) (id : String) (r : Http.Request) (d : Declined) : Http.Response where
  status := 404
  contentType := some "application/json"
  body :=
    if r.method = "HEAD" ∧ router.table.misses r.target.path = false then ""
    else (ErrorBody.ofDeclined id d).render

/-- What a gate makes of an answer of the router behind it. -/
def screened (router : Router) (gate : Gate) (x : String × Http.Request) (a : Http.Response) :
    Http.Response :=
  match (gate.evaluate x.2.method x.2.target.resource).1 with
  | .allow => a
  | .decline d => declinedAnswer router x.1 x.2 d

/-! ## One request -/

theorem grantsConnect_declined (method id : String) (d : Declined) :
    (Http.Response.declined id d).grantsConnect method = false :=
  Bool.and_false _

theorem sent_declined (g : GatedRouter) (id : String) (r : Http.Request) (d : Declined) :
    g.sent r (.declined id d) = declinedAnswer g.router id r d := by
  unfold sent declinedAnswer
  cases hm : g.router.table.misses r.target.path with
  | true =>
    rw [if_pos rfl, if_neg fun h => nomatch h.2]
    rfl
  | false =>
    rw [if_neg Bool.false_ne_true]
    unfold Http.Response.sentFor
    rw [grantsConnect_declined]
    by_cases hhead : r.method = "HEAD"
    · rw [if_pos (.inl hhead), if_pos ⟨hhead, rfl⟩]
      rfl
    · rw [if_neg fun h => h.elim hhead Bool.false_ne_true, if_neg fun h => hhead h.1]
      rfl

/-- The gate puts its own answer in place of the router's to a request that it declines. -/
theorem answer_behind_gate (router : Router) (gate : Gate) (id : String) (r : Http.Request) :
    (answer id ⟨router, some gate⟩ r).1 =
      screened router gate (id, r) (answer id ⟨router, none⟩ r).1 := by
  show sent ⟨router, some gate⟩ r (response id ⟨router, some gate⟩ r) = _
  show _ = match decision ⟨router, some gate⟩ r with
    | .allow => (answer id ⟨router, none⟩ r).1
    | .decline d => declinedAnswer router id r d
  cases hdec : decision ⟨router, some gate⟩ r with
  | allow =>
    rw [response_of_allow hdec]
    rfl
  | decline d =>
    rw [response_of_decline hdec]
    exact sent_declined _ id r d

/-! ## Runs -/

/-- Answering a request changes the counters of a gate and nothing that it decides by. -/
theorem decision_after (g : GatedRouter) (r r' : Http.Request) :
    (g.after r).decision r' = g.decision r' := by
  obtain ⟨router, _ | gate⟩ := g <;> rfl

theorem answer_after (g : GatedRouter) (id : String) (r r' : Http.Request) :
    ((g.after r).answer id r').1 = (g.answer id r').1 := by
  have hresponse : (g.after r).response id r' = g.response id r' := by
    unfold response
    rw [decision_after]
    rfl
  show (g.after r).sent r' _ = g.sent r' _
  rw [hresponse]
  rfl

/-- In a run every request is answered as it is alone. -/
theorem answers_eq_map (g : GatedRouter) (rs : List (String × Http.Request)) :
    g.answers rs = rs.map fun x => (g.answer x.1 x.2).1 := by
  induction rs generalizing g with
  | nil => rfl
  | cons x rs ih =>
    obtain ⟨id, r⟩ := x
    have hrest : (g.after r).answers rs = rs.map fun x => (g.answer x.1 x.2).1 := by
      rw [ih]
      exact List.map_congr_left fun x _ => answer_after g x.1 r x.2
    exact congrArg _ hrest

/-- **Transparency.** In every run of requests a router behind a gate answers as it does by itself, but
for the requests that the gate declines at the start. -/
theorem answers_behind_gate (router : Router) (gate : Gate) (rs : List (String × Http.Request)) :
    answers ⟨router, some gate⟩ rs =
      List.zipWith (screened router gate) rs (answers ⟨router, none⟩ rs) := by
  rw [answers_eq_map, answers_eq_map, List.zipWith_map_right, List.zipWith_self]
  exact List.map_congr_left fun x _ => answer_behind_gate router gate x.1 x.2

/-- A declined `HEAD` request on a path without a route is answered with a body. -/
theorem answers_head_with_body :
    Router.ofSteps? [.route "GET" "/a"] =
        some ⟨[⟨"GET", "/a"⟩], [⟨"/a", [.char '/', .char 'a'], [.method "GET"]⟩]⟩ ∧
      Http.Request.ofText? "HEAD" "/b" = some ⟨"HEAD", "/b", "/b"⟩ ∧
      ((Gate.ofRegistry (Registry.empty.insert "/**" .any)).evaluate "HEAD" "/b").1 =
        .decline ⟨"HEAD", "/b", .any, "/**"⟩ ∧
      (answers
          ⟨⟨[⟨"GET", "/a"⟩], [⟨"/a", [.char '/', .char 'a'], [.method "GET"]⟩]⟩,
            some (.ofRegistry (Registry.empty.insert "/**" .any))⟩
          [("1", ⟨"HEAD", "/b", "/b"⟩)]).map (·.body) ≠ [""] := by
  refine ⟨by decide, by decide, by decide, by decide +kernel⟩

end EndpointGate.GatedRouter
