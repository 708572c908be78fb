import EndpointGate.Proofs.Registry.Insertion

/-!
# Declarations of other patterns

Declarations of patterns that a registry does not have are entered behind its entries, as into an empty
registry (`entries_declare_of_disjoint`). Hence a look-up goes on to them where the registry has nothing
(`lookup_declare_append`), and a registry is that of its own declarations (`declare_declarations`).
-/

namespace EndpointGate.Registry

variable {text : String} {methods : MethodSet} {es fs : List Entry} {ds ds' : List Declaration}
  {r : Registry}

theorem insertEntry_append (h : text ∉ es.map (·.text)) :
    insertEntry text methods (es ++ fs) = es ++ insertEntry text methods fs := by
  induction es with
  | nil => rfl
  | cons e es ih =>
    simp only [List.map_cons, List.mem_cons, not_or] at h
    rw [List.cons_append, insertEntry, if_neg (Ne.symm h.1), ih h.2]
    rfl

theorem entries_declare_append (h : ∀ text ∈ texts ds, text ∉ es.map (·.text)) (fs : List Entry) :
    (declare ⟨es ++ fs⟩ ds).entries = es ++ (declare ⟨fs⟩ ds).entries := by
  induction ds generalizing fs with
  | nil => rfl
  | cons d ds ih =>
    have hd := h d.pattern List.mem_cons_self
    have hds := fun text ht => h text (List.mem_cons_of_mem d.pattern ht)
    show (declare ⟨insertEntry d.pattern d.methods (es ++ fs)⟩ ds).entries =
      es ++ (declare ⟨insertEntry d.pattern d.methods fs⟩ ds).entries
    rw [insertEntry_append hd]
    exact ih hds _

/-- Declarations of other patterns come behind the entries. -/
theorem entries_declare_of_disjoint (h : ∀ text ∈ texts ds, text ∉ r.entries.map (·.text)) :
    (r.declare ds).entries = r.entries ++ (empty.declare ds).entries := by
  have happend := entries_declare_append h []
  rwa [List.append_nil] at happend

theorem lookup_declare_append (h : (texts ds).Disjoint (texts ds')) (path method : String) :
    (empty.declare (ds ++ ds')).lookup path method =
      ((empty.declare ds).lookup path method).or ((empty.declare ds').lookup path method) := by
  have hrecords : (empty.declare ds).Records ds := records_empty.declare ds
  have hnew : ∀ text ∈ texts ds', text ∉ (empty.declare ds).entries.map (·.text) := by
    intro text ht hold
    exact h ((hrecords.mem_iff text).1 hold) ht
  have happend : empty.declare (ds ++ ds') = (empty.declare ds).declare ds' := List.foldl_append
  unfold lookup
  rw [happend, entries_declare_of_disjoint hnew, List.find?_append]

/-! ## The declarations of a registry -/

theorem entries_declare_of_nodup {es : List Entry} (hn : (es.map (·.text)).Nodup)
    (hc : ∀ e ∈ es, e.pattern = Pattern.compile e.text) :
    (empty.declare (declarations ⟨es⟩)).entries = es := by
  induction es with
  | nil => rfl
  | cons e es ih =>
    rw [List.map_cons, List.nodup_cons] at hn
    have hnew : ∀ text ∈ texts (declarations ⟨es⟩), text ∉ [e].map (·.text) := by
      intro text ht hmem
      obtain rfl := List.mem_singleton.1 hmem
      simp only [texts, declarations, List.map_map] at ht
      exact hn.1 ht
    have hentry : (⟨Pattern.compile e.text, e.methods⟩ : Entry) = e := by
      rw [← hc e List.mem_cons_self]
    show (declare ⟨[⟨Pattern.compile e.text, e.methods⟩]⟩ (declarations ⟨es⟩)).entries = e :: es
    rw [hentry, entries_declare_of_disjoint hnew, ih hn.2 fun f hf => hc f (List.mem_cons_of_mem e hf)]
    rfl

/-- A registry has nothing but what its own declarations say. -/
theorem Records.declare_declarations (h : r.Records ds) : empty.declare r.declarations = r := by
  have hentries := entries_declare_of_nodup h.nodup h.compiled
  cases r with
  | mk es =>
    rw [Registry.mk.injEq]
    exact hentries

end EndpointGate.Registry
