import EndpointGate.Gate
import EndpointGate.Http.Target
import Mathlib.Data.List.TakeWhile

/-!
# The path that the gate sees

A target gives a path to the router, and to the gate a resource, of which the gate reads what stands in
front of the query. `uriPath_resource` compares the two: they are the same path, but for a URI that has
its query right behind its host. There the router is given the root, and the gate sees no path at all.
-/

namespace EndpointGate.Http

/-- The URI has its query right behind its host: no path stands between them. -/
def OmitsPath (uri : String) : Prop :=
  ∃ scheme host query : List Char,
    uri.toList = scheme ++ ':' :: '/' :: '/' :: (host ++ '?' :: query) ∧
      (∀ c ∈ scheme, isSchemeChar c = true) ∧ ∀ c ∈ host, endsAuthority c = false

variable {uri : String} {cs : List Char} {t : Target}

/-! ## Paths with queries -/

theorem uriPath_ofList (cs : List Char) :
    uriPath (String.ofList cs) = String.ofList (cs.takeWhile fun c => !endsPath c) := by
  unfold uriPath
  rw [String.toList_ofList]
  rfl

theorem readResource?_eq_some (h : readResource? cs = some t) : t = .ofResource (dropFragment cs) := by
  obtain ⟨-, h⟩ := Option.ite_none_right_eq_some.1 h
  exact (Option.some.inj h).symm

theorem head?_dropFragment {c : Char} {ds : List Char} (h : dropFragment cs = c :: ds) :
    cs.head? = some c ∧ c ≠ '#' := by
  unfold dropFragment at h
  cases cs with
  | nil => exact absurd h nofun
  | cons d cs =>
    rw [List.takeWhile_cons] at h
    split at h
    · next hd =>
      obtain ⟨rfl, -⟩ := List.cons.inj h
      exact ⟨rfl, by rintro rfl; exact absurd hd (by decide)⟩
    · exact absurd h nofun

/-- Without a query in front the gate sees the path that is left of a resource. -/
theorem uriPath_of_readResource? (h : readResource? cs = some t) (hq : cs.head? ≠ some '?') :
    uriPath t.resource = t.path := by
  obtain rfl := readResource?_eq_some h
  show uriPath (String.ofList (orSlash (dropFragment cs))) = String.ofList (orSlash _)
  rw [uriPath_ofList]
  cases hcs : dropFragment cs with
  | nil => rfl
  | cons c ds =>
    obtain ⟨hc, hf⟩ := head?_dropFragment hcs
    have hne : c ≠ '?' := fun h => hq (h ▸ hc)
    have hend : (!endsPath c) = true := by
      rw [Bool.not_eq_true', endsPath, isFragmentStart, Bool.or_eq_false_iff]
      exact ⟨beq_eq_false_iff_ne.2 hne, beq_eq_false_iff_ne.2 hf⟩
    have htake : (c :: ds).takeWhile (fun c => !endsPath c) = c :: ds.takeWhile fun c => !endsPath c :=
      List.takeWhile_cons_of_pos hend
    unfold orSlash
    rw [htake, if_neg (List.cons_ne_nil c ds), if_neg (List.cons_ne_nil c _), htake]

/-- With a query in front the gate sees no path, and the root is left. -/
theorem uriPath_of_query {query : List Char} (h : readResource? ('?' :: query) = some t) :
    t.path = "/" ∧ uriPath t.resource = "" := by
  obtain rfl := readResource?_eq_some h
  have hcs : dropFragment ('?' :: query) = '?' :: dropFragment query := rfl
  rw [hcs]
  exact ⟨rfl, uriPath_ofList _⟩

/-! ## Absolute URIs -/

theorem takeWhile_append_of_all {p : Char → Bool} {l : List Char} (hl : ∀ c ∈ l, p c = true) {c : Char}
    (hc : p c = false) (cs : List Char) : (l ++ c :: cs).takeWhile p = l := by
  rw [List.takeWhile_append_of_pos hl, List.takeWhile_cons_of_neg (by rw [hc]; nofun), List.append_nil]

theorem dropWhile_append_of_all {p : Char → Bool} {l : List Char} (hl : ∀ c ∈ l, p c = true) {c : Char}
    (hc : p c = false) (cs : List Char) : (l ++ c :: cs).dropWhile p = c :: cs := by
  rw [List.dropWhile_append_of_pos hl, List.dropWhile_cons_of_neg (by rw [hc]; nofun)]

theorem drop_scheme (scheme rest : List Char) :
    (scheme ++ ':' :: '/' :: '/' :: rest).drop (scheme.length + 3) = rest := by
  rw [← List.drop_drop, List.drop_left]
  rfl

theorem schemeLength?_append {scheme rest : List Char} (hs : ∀ c ∈ scheme, isSchemeChar c = true)
    (hr : rest ≠ []) : schemeLength? (scheme ++ ':' :: '/' :: '/' :: rest) = some scheme.length := by
  have hlen : 3 < (scheme ++ ':' :: '/' :: '/' :: rest).length := by
    have := List.length_pos_iff.2 hr
    simp only [List.length_append, List.length_cons]
    omega
  unfold schemeLength?
  rw [dropWhile_append_of_all hs rfl, takeWhile_append_of_all hs rfl]
  show (if 3 < (scheme ++ ':' :: '/' :: '/' :: rest).length then some scheme.length else none) = _
  rw [if_pos hlen]

/-- A text with a scheme is the scheme, a colon with two slashes and what follows them. -/
theorem eq_append_of_schemeLength? {n : Nat} (h : schemeLength? cs = some n) :
    ∃ scheme, (∀ c ∈ scheme, isSchemeChar c = true) ∧
      cs = scheme ++ ':' :: '/' :: '/' :: cs.drop (n + 3) := by
  refine ⟨cs.takeWhile isSchemeChar, fun c hc => List.mem_takeWhile_imp hc, ?_⟩
  unfold schemeLength? at h
  split at h
  · next rest hrest =>
    obtain ⟨-, h⟩ := Option.ite_none_right_eq_some.1 h
    have hcs : cs.takeWhile isSchemeChar ++ cs.dropWhile isSchemeChar = cs :=
      List.takeWhile_append_dropWhile
    rw [hrest] at hcs
    have hdrop := drop_scheme (cs.takeWhile isSchemeChar) rest
    rw [hcs, Option.some.inj h] at hdrop
    rw [hdrop, hcs]
  · exact absurd h nofun

theorem readAfterScheme?_append {host rest : List Char} {c : Char}
    (hh : ∀ c ∈ host, endsAuthority c = false) (hc : endsAuthority c = true)
    (h : readAfterScheme? (host ++ c :: rest) = some t) : readResource? (c :: rest) = some t := by
  obtain ⟨-, h⟩ := Option.ite_none_right_eq_some.1 h
  have hall : ∀ c ∈ host, (!endsAuthority c) = true := fun c hc => by rw [hh c hc]; rfl
  have hend : (!endsAuthority c) = false := by rw [hc]; rfl
  rwa [dropWhile_append_of_all hall hend] at h

/-! ## Targets -/

theorem head?_ne_slash_of_scheme {scheme rest : List Char} (hs : ∀ c ∈ scheme, isSchemeChar c = true) :
    (scheme ++ ':' :: rest).head? ≠ some '/' := by
  cases scheme with
  | nil => nofun
  | cons c scheme =>
    intro hc
    have hslash := hs c List.mem_cons_self
    rw [Option.some.inj hc] at hslash
    exact absurd hslash (by decide)

/-- A text with a scheme is read as an absolute URI. -/
theorem readAfterScheme?_of_ofText? {scheme rest : List Char}
    (huri : uri.toList = scheme ++ ':' :: '/' :: '/' :: rest)
    (hs : ∀ c ∈ scheme, isSchemeChar c = true) (hr : rest ≠ []) (h : Target.ofText? uri = some t) :
    readAfterScheme? rest = some t := by
  have hslash : uri.toList.head? ≠ some '/' := huri ▸ head?_ne_slash_of_scheme hs
  have hstar : uri.toList ≠ ['*'] := by
    intro hcs
    have hlen := congrArg List.length (huri.symm.trans hcs)
    simp only [List.length_append, List.length_cons, List.length_nil] at hlen
    omega
  unfold Target.ofText? at h
  dsimp only at h
  obtain ⟨-, h⟩ := Option.ite_none_left_eq_some.1 h
  rw [if_neg hstar, if_neg hslash, huri, schemeLength?_append hs hr] at h
  obtain ⟨-, h⟩ := Option.ite_none_right_eq_some.1 h
  rwa [drop_scheme] at h

/-- A query right behind the host is all that is left for the gate. -/
theorem readResource?_of_omitsPath (ho : OmitsPath uri) (h : Target.ofText? uri = some t) :
    ∃ query, readResource? ('?' :: query) = some t := by
  obtain ⟨scheme, host, query, huri, hs, hh⟩ := ho
  have hrest := readAfterScheme?_of_ofText? huri hs (by simp) h
  exact ⟨query, readAfterScheme?_append hh rfl hrest⟩

/-- Any other URI leaves the gate the path that it leaves the router. -/
theorem uriPath_of_not_omitsPath (ho : ¬OmitsPath uri) (h : Target.ofText? uri = some t) :
    uriPath t.resource = t.path := by
  unfold Target.ofText? at h
  dsimp only at h
  obtain ⟨-, h⟩ := Option.ite_none_left_eq_some.1 h
  split at h
  · obtain rfl := Option.some.inj h
    rfl
  split at h
  · next hslash => exact uriPath_of_readResource? h (by rw [hslash]; decide)
  split at h
  · next n hn =>
    obtain ⟨-, h⟩ := Option.ite_none_right_eq_some.1 h
    obtain ⟨-, h⟩ := Option.ite_none_right_eq_some.1 h
    obtain ⟨scheme, hs, hcs⟩ := eq_append_of_schemeLength? hn
    refine uriPath_of_readResource? h fun hq => ho ?_
    obtain ⟨query, hquery⟩ := List.head?_eq_some_iff.1 hq
    let host := (uri.toList.drop (n + 3)).takeWhile fun c => !endsAuthority c
    refine ⟨scheme, host, query, ?_, hs, fun c hc => ?_⟩
    · rw [← hquery, List.takeWhile_append_dropWhile, ← hcs]
    · have := List.mem_takeWhile_imp hc
      rwa [Bool.not_eq_true'] at this
  · obtain ⟨-, h⟩ := Option.ite_none_right_eq_some.1 h
    obtain rfl := Option.some.inj h
    rfl

/-- The gate sees the path that the router is given, or nothing in place of the root. -/
theorem uriPath_resource (h : Target.ofText? uri = some t) :
    (OmitsPath uri ∧ t.path = "/" ∧ uriPath t.resource = "") ∨
      (¬OmitsPath uri ∧ uriPath t.resource = t.path) := by
  by_cases ho : OmitsPath uri
  · obtain ⟨query, hquery⟩ := readResource?_of_omitsPath ho h
    exact .inl ⟨ho, uriPath_of_query hquery⟩
  · exact .inr ⟨ho, uriPath_of_not_omitsPath ho h⟩

end EndpointGate.Http
