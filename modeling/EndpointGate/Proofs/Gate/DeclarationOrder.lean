import EndpointGate.Proofs.Gate.Answer
import EndpointGate.Proofs.Registry.Concatenation

/-!
# The order of declarations

Whether a gate declines a request depends on the methods that its patterns were declared with last, and not
on the order of the patterns (`isDeclined_judge_congr`). Of two lists without a common pattern, one behind the
other, the first one decides, and where it allows a request the second one does (`judge_declare_append`).
-/

namespace EndpointGate

/-- The texts are accepted, and these are the declarations that they are read as. -/
def Declaration.AreRead (entries : List String) (ds : List Declaration) : Prop :=
  entries.map parse? = ds.map some

/-- The first decision, or the second one of a request that the first one allows. -/
def Decision.orElse : Decision → Decision → Decision
  | .allow, second => second
  | .decline d, _ => .decline d

variable {entries entries' : List String} {ds ds' : List Declaration}

/-! ## Reading -/

theorem Declaration.AreRead.ofEntries (h : AreRead entries ds) :
    Registry.ofEntries entries = .ok (Registry.empty.declare ds) :=
  Registry.insertAll_eq_ok_iff.2 ⟨ds, h, rfl⟩

theorem Declaration.AreRead.append (h : AreRead entries ds) (h' : AreRead entries' ds') :
    AreRead (entries ++ entries') (ds ++ ds') := by
  unfold AreRead at *
  rw [List.map_append, List.map_append, h, h']

theorem Declaration.areRead_iff :
    AreRead entries ds ↔ (∀ x ∈ entries, (parse? x).isSome = true) ∧ entries.filterMap parse? = ds := by
  unfold AreRead
  induction entries generalizing ds with
  | nil => cases ds <;> simp
  | cons entry entries ih =>
    rw [List.map_cons, List.forall_mem_cons]
    cases hd : parse? entry with
    | none =>
      refine ⟨fun h => ?_, fun h => absurd h.1.1 nofun⟩
      cases ds <;> nomatch h
    | some d =>
      rw [List.filterMap_cons_some hd]
      cases ds with
      | nil => exact ⟨nofun, fun h => nomatch h.2⟩
      | cons d' ds =>
        rw [List.map_cons, List.cons.injEq, List.cons.injEq, Option.some.injEq, ih]
        simp only [Option.isSome_some, true_and]
        tauto

/-- In another order the texts are read as the same declarations in another order. -/
theorem Declaration.AreRead.exists_perm (h : AreRead entries ds) (hperm : entries.Perm entries') :
    ∃ ds', AreRead entries' ds' ∧ ds.Perm ds' := by
  obtain ⟨hall, rfl⟩ := areRead_iff.1 h
  refine ⟨entries'.filterMap parse?, areRead_iff.2 ⟨fun x hx => ?_, rfl⟩, hperm.filterMap parse?⟩
  exact hall x (hperm.mem_iff.2 hx)

namespace Registry

/-! ## The last methods -/

theorem lastMethods_eq_some_iff_of_nodup (hn : (texts ds).Nodup) {text : String} {methods : MethodSet} :
    lastMethods ds text = some methods ↔ ⟨text, methods⟩ ∈ ds := by
  constructor
  · exact mem_of_lastMethods
  · intro hmem
    cases hlast : lastMethods ds text with
    | none =>
      have hnone := List.find?_eq_none.1 (Option.map_eq_none_iff.1 hlast) _ (List.mem_reverse.2 hmem)
      simp at hnone
    | some methods' =>
      have heq := List.inj_on_of_nodup_map hn (mem_of_lastMethods hlast) hmem rfl
      rw [(Declaration.mk.inj heq).2]

theorem lastMethods_perm (hn : (texts ds).Nodup) (hperm : ds.Perm ds') (text : String) :
    lastMethods ds text = lastMethods ds' text := by
  have hn' : (texts ds').Nodup := (hperm.map _).nodup_iff.1 hn
  apply Option.ext
  intro methods
  rw [lastMethods_eq_some_iff_of_nodup hn, lastMethods_eq_some_iff_of_nodup hn', hperm.mem_iff]

theorem covers_congr (h : ∀ text, lastMethods ds text = lastMethods ds' text) {path method text : String} :
    Covers ds path method text ↔ Covers ds' path method text := by
  unfold Covers
  rw [h]

theorem isSome_lookup_iff {r : Registry} (h : r.Records ds) (path method : String) :
    (r.lookup path method).isSome = true ↔ ∃ text, Covers ds path method text := by
  rw [← not_iff_not, Bool.not_eq_true, Option.isSome_eq_false_iff, Option.isNone_iff_eq_none,
    h.lookup_eq_none_iff path method, not_exists]

theorem isDeclined_judge_congr (h : ∀ text, lastMethods ds text = lastMethods ds' text)
    (method uri : String) :
    ((empty.declare ds).judge method uri).isDeclined =
      ((empty.declare ds').judge method uri).isDeclined := by
  rw [isDeclined_judge, isDeclined_judge, Bool.eq_iff_iff,
    isSome_lookup_iff (records_empty.declare ds), isSome_lookup_iff (records_empty.declare ds')]
  exact exists_congr fun text => covers_congr h

/-! ## One list behind the other -/

theorem judge_declare_append (h : (texts ds).Disjoint (texts ds')) (method uri : String) :
    (empty.declare (ds ++ ds')).judge method uri =
      ((empty.declare ds).judge method uri).orElse ((empty.declare ds').judge method uri) := by
  unfold judge
  rw [lookup_declare_append h]
  cases (empty.declare ds).lookup (uriPath uri) (Text.asciiUppercase method) <;> rfl

end Registry

open Declaration (AreRead)

/-- **Order.** Accepted lists that declare every pattern with the same methods last, such as a list
without repeated patterns in any order, are read into gates that decline the same requests. One list behind
another one without a common pattern declines what the first one declines, for the same reason, and decides
as the second one on everything else. -/
theorem Gate.declines_in_any_order :
    (∀ entries entries' ds ds', AreRead entries ds → AreRead entries' ds' →
      (∀ text, Registry.lastMethods ds text = Registry.lastMethods ds' text) →
        ∃ r r', Registry.ofEntries entries = .ok r ∧ Registry.ofEntries entries' = .ok r' ∧
          ∀ t t' method uri, (evaluate ⟨r, t⟩ method uri).1.isDeclined =
            (evaluate ⟨r', t'⟩ method uri).1.isDeclined) ∧
    (∀ entries entries' ds, AreRead entries ds → (Registry.texts ds).Nodup → entries.Perm entries' →
      ∃ ds', AreRead entries' ds' ∧
        ∀ text, Registry.lastMethods ds text = Registry.lastMethods ds' text) ∧
    ∀ entries entries' ds ds', AreRead entries ds → AreRead entries' ds' →
      (Registry.texts ds).Disjoint (Registry.texts ds') →
        ∃ r r' both, Registry.ofEntries entries = .ok r ∧ Registry.ofEntries entries' = .ok r' ∧
          Registry.ofEntries (entries ++ entries') = .ok both ∧
          ∀ t t' t'' method uri,
            (∀ d, (evaluate ⟨r, t⟩ method uri).1 = .decline d →
              (evaluate ⟨both, t''⟩ method uri).1 = .decline d) ∧
            ((evaluate ⟨r, t⟩ method uri).1 = .allow →
              (evaluate ⟨both, t''⟩ method uri).1 = (evaluate ⟨r', t'⟩ method uri).1) := by
  refine ⟨?_, ?_, ?_⟩
  · intro entries entries' ds ds' h h' hlast
    exact ⟨_, _, h.ofEntries, h'.ofEntries, fun _ _ => Registry.isDeclined_judge_congr hlast⟩
  · intro entries entries' ds h hn hperm
    obtain ⟨ds', h', hds⟩ := h.exists_perm hperm
    exact ⟨ds', h', Registry.lastMethods_perm hn hds⟩
  · intro entries entries' ds ds' h h' hdisjoint
    refine ⟨_, _, _, h.ofEntries, h'.ofEntries, (h.append h').ofEntries, ?_⟩
    intro t t' t'' method uri
    have hjudge := Registry.judge_declare_append hdisjoint method uri
    constructor
    · intro d hd
      have hfirst : (Registry.empty.declare ds).judge method uri = .decline d := hd
      rw [hfirst] at hjudge
      exact hjudge
    · intro hallow
      have hfirst : (Registry.empty.declare ds).judge method uri = .allow := hallow
      rw [hfirst] at hjudge
      exact hjudge

/-- Two patterns for one path: the request is declined whichever comes first, under the one that does. -/
theorem Gate.declines_whichever_first :
    (∃ r r', Registry.ofEntries ["/a/* [get]", "/a/b"] = .ok r ∧
      Registry.ofEntries ["/a/b", "/a/* [get]"] = .ok r' ∧
      ∀ t t' method uri, (evaluate ⟨r, t⟩ method uri).1.isDeclined =
        (evaluate ⟨r', t'⟩ method uri).1.isDeclined) ∧
    (∃ r r' both, Registry.ofEntries ["/a/* [get]"] = .ok r ∧ Registry.ofEntries ["/a/b"] = .ok r' ∧
      Registry.ofEntries ["/a/* [get]", "/a/b"] = .ok both ∧
      ∀ t t' t'' method uri,
        (∀ d, (evaluate ⟨r, t⟩ method uri).1 = .decline d →
          (evaluate ⟨both, t''⟩ method uri).1 = .decline d) ∧
        ((evaluate ⟨r, t⟩ method uri).1 = .allow →
          (evaluate ⟨both, t''⟩ method uri).1 = (evaluate ⟨r', t'⟩ method uri).1)) ∧
    (evaluate (.ofRegistry (Registry.empty.declare [⟨"/a/*", .only ["GET"]⟩, ⟨"/a/b", .any⟩]))
      "get" "/a/b?x").1 = .decline ⟨"get", "/a/b?x", .only ["GET"], "/a/*"⟩ ∧
    (evaluate (.ofRegistry (Registry.empty.declare [⟨"/a/b", .any⟩, ⟨"/a/*", .only ["GET"]⟩]))
      "get" "/a/b?x").1 = .decline ⟨"get", "/a/b?x", .any, "/a/b"⟩ := by
  have hstar : AreRead ["/a/* [get]"] [⟨"/a/*", .only ["GET"]⟩] := by
    unfold AreRead
    decide +kernel
  have hplain : AreRead ["/a/b"] [⟨"/a/b", .any⟩] := by
    unfold AreRead
    decide +kernel
  obtain ⟨horder, -, hbehind⟩ := declines_in_any_order
  refine ⟨?_, ?_, by decide +kernel, by decide +kernel⟩
  · exact horder _ _ _ _ (hstar.append hplain) (hplain.append hstar)
      (Registry.lastMethods_perm (by decide) (List.Perm.swap _ _ _))
  · exact hbehind _ _ _ _ hstar hplain (by simp [Registry.texts])

end EndpointGate
