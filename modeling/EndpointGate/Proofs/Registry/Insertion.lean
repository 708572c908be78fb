import EndpointGate.Declaration
import Mathlib.Data.Finset.Card
import Mathlib.Data.List.Basic

/-!
# A registry records what was inserted

The place of an entry comes from the first insertion of its text, its methods come from the last one.
`Records` says this of a registry and the list of everything that was inserted into it; one more insertion
keeps it (`Records.insert`), so it holds after any number of them (`Records.declare`).

A look-up is read off from it (`Records.lookup_eq_some_iff`): among the texts that cover the request by
their last methods it finds the one that was inserted first. `reflects_insertions` puts this together, for
insertions one after another and for a list of declarations that is read.
-/

namespace EndpointGate.Registry

/-- Inserts declarations one after another. -/
def declare (r : Registry) (ds : List Declaration) : Registry :=
  ds.foldl (fun r d => r.insert d.pattern d.methods) r

/-! ## The reference -/

/-- The inserted texts, with repeats. -/
def texts (ds : List Declaration) : List String := ds.map (·.pattern)

/-- The methods that a text was inserted with last. -/
def lastMethods (ds : List Declaration) (text : String) : Option MethodSet :=
  (ds.reverse.find? (·.pattern == text)).map (·.methods)

/-- The text covers the request: its last methods do, and its pattern matches the path. -/
def Covers (ds : List Declaration) (path method text : String) : Prop :=
  ∃ methods, lastMethods ds text = some methods ∧ methods.covers method = true ∧
    (Pattern.compile text).matches? path = true

/-- The entry is the one of a text that covers the request, and no covering text was inserted earlier. -/
structure IsFirst (ds : List Declaration) (path method : String) (e : Entry) : Prop where
  compiled : e.pattern = Pattern.compile e.text
  last : lastMethods ds e.text = some e.methods
  covers : Covers ds path method e.text
  first : ∀ text, Covers ds path method text → (texts ds).idxOf e.text ≤ (texts ds).idxOf text

/-- The entries are the inserted texts in the order of their first insertions, each with its own pattern
and its last methods. -/
structure Records (ds : List Declaration) (r : Registry) : Prop where
  mem_iff : ∀ text, text ∈ r.entries.map (·.text) ↔ text ∈ texts ds
  order : (r.entries.map (·.text)).Pairwise fun a b => (texts ds).idxOf a < (texts ds).idxOf b
  compiled : ∀ e ∈ r.entries, e.pattern = Pattern.compile e.text
  last : ∀ e ∈ r.entries, lastMethods ds e.text = some e.methods

variable {ds : List Declaration} {r : Registry}

theorem texts_append (ds ds' : List Declaration) : texts (ds ++ ds') = texts ds ++ texts ds' :=
  List.map_append

theorem lastMethods_concat (ds : List Declaration) (d : Declaration) (text : String) :
    lastMethods (ds ++ [d]) text =
      if d.pattern = text then some d.methods else lastMethods ds text := by
  unfold lastMethods
  rw [List.reverse_concat, List.find?_cons]
  by_cases h : d.pattern = text
  · rw [if_pos h, beq_iff_eq.2 h]
    rfl
  · rw [if_neg h, beq_eq_false_iff_ne.2 h]

theorem mem_of_lastMethods {text : String} {methods : MethodSet}
    (h : lastMethods ds text = some methods) : ⟨text, methods⟩ ∈ ds := by
  obtain ⟨d, hd, rfl⟩ := Option.map_eq_some_iff.1 h
  have hmem := List.mem_reverse.1 (List.mem_of_find?_eq_some hd)
  have ht := List.find?_some hd
  obtain rfl := eq_of_beq ht
  exact hmem

theorem mem_texts_of_lastMethods {text : String} {methods : MethodSet}
    (h : lastMethods ds text = some methods) : text ∈ texts ds :=
  List.mem_map.2 ⟨_, mem_of_lastMethods h, rfl⟩

/-! ## One insertion -/

theorem Records.nodup (h : r.Records ds) : (r.entries.map (·.text)).Nodup := by
  refine h.order.imp fun hlt heq => ?_
  rw [heq] at hlt
  exact Nat.lt_irrefl _ hlt

/-- Where texts are not repeated, an insertion changes the entry with the text and no other. -/
theorem mem_insertEntry {text : String} {methods : MethodSet} {es : List Entry}
    (hn : (es.map (·.text)).Nodup) {e : Entry} (he : e ∈ insertEntry text methods es) :
    (e.text = text ∧ e.methods = methods) ∨ (e.text ≠ text ∧ e ∈ es) := by
  induction es with
  | nil =>
    obtain rfl := List.mem_singleton.1 he
    exact .inl ⟨rfl, rfl⟩
  | cons f es ih =>
    rw [List.map_cons, List.nodup_cons] at hn
    unfold insertEntry at he
    by_cases hf : f.text = text
    · rw [if_pos hf] at he
      obtain rfl | he := List.mem_cons.1 he
      · exact .inl ⟨hf, rfl⟩
      · refine .inr ⟨fun ht => hn.1 ?_, List.mem_cons_of_mem f he⟩
        rw [hf, ← ht]
        exact List.mem_map_of_mem he
    · rw [if_neg hf] at he
      obtain rfl | he := List.mem_cons.1 he
      · exact .inr ⟨hf, List.mem_cons_self⟩
      · obtain h | ⟨ht, hmem⟩ := ih hn.2 he
        · exact .inl h
        · exact .inr ⟨ht, List.mem_cons_of_mem f hmem⟩

theorem compiled_insertEntry {text : String} {methods : MethodSet} {es : List Entry}
    (hc : ∀ e ∈ es, e.pattern = Pattern.compile e.text) :
    ∀ e ∈ insertEntry text methods es, e.pattern = Pattern.compile e.text := by
  intro e he
  induction es with
  | nil =>
    obtain rfl := List.mem_singleton.1 he
    rfl
  | cons f es ih =>
    have hf := hc f List.mem_cons_self
    have hes := fun g hg => hc g (List.mem_cons_of_mem f hg)
    unfold insertEntry at he
    split at he
    · obtain rfl | he := List.mem_cons.1 he
      · exact hf
      · exact hes e he
    · obtain rfl | he := List.mem_cons.1 he
      · exact hf
      · exact ih hes he

theorem records_empty : empty.Records [] :=
  ⟨fun _ => Iff.rfl, .nil, nofun, nofun⟩

/-- One insertion more is recorded. -/
theorem Records.insert (h : r.Records ds) (d : Declaration) :
    (r.insert d.pattern d.methods).Records (ds ++ [d]) where
  mem_iff text := by
    rw [entries_insert, map_text_insertEntry, texts_append, List.mem_append, ← h.mem_iff]
    split
    · rename_i hd
      exact ⟨.inl, fun ht => ht.elim id fun ht => List.mem_singleton.1 ht ▸ hd⟩
    · exact List.mem_append
  order := by
    have hold : (r.entries.map (·.text)).Pairwise fun a b =>
        (texts (ds ++ [d])).idxOf a < (texts (ds ++ [d])).idxOf b := by
      refine h.order.imp_of_mem fun ha hb hlt => ?_
      rw [texts_append, List.idxOf_append_of_mem ((h.mem_iff _).1 ha),
        List.idxOf_append_of_mem ((h.mem_iff _).1 hb)]
      exact hlt
    rw [entries_insert, map_text_insertEntry]
    split
    · exact hold
    · rename_i hd
      rw [h.mem_iff] at hd
      refine List.pairwise_append.2 ⟨hold, List.pairwise_singleton _ _, fun a ha b hb => ?_⟩
      obtain rfl := List.mem_singleton.1 hb
      have hat := (h.mem_iff a).1 ha
      rw [texts_append, List.idxOf_append_of_mem hat, List.idxOf_append_of_notMem hd]
      exact Nat.lt_of_lt_of_le (List.idxOf_lt_length_of_mem hat) (Nat.le_add_right _ _)
  compiled := compiled_insertEntry h.compiled
  last e he := by
    rw [lastMethods_concat]
    obtain ⟨ht, hm⟩ | ⟨ht, hmem⟩ := mem_insertEntry h.nodup he
    · rw [if_pos ht.symm, hm]
    · rw [if_neg (Ne.symm ht)]
      exact h.last e hmem

/-- Any number of insertions are recorded. -/
theorem Records.declare (h : r.Records ds) (ds' : List Declaration) :
    (r.declare ds').Records (ds ++ ds') := by
  induction ds' generalizing r ds with
  | nil => rwa [List.append_nil]
  | cons d ds' ih =>
    have := ih (h.insert d)
    rwa [List.append_assoc] at this

/-! ## What can be asked -/

theorem Records.eq_of_text_eq (h : r.Records ds) {e e' : Entry} (he : e ∈ r.entries)
    (hp : e'.pattern = Pattern.compile e'.text) (hm : lastMethods ds e'.text = some e'.methods)
    (ht : e.text = e'.text) : e = e' := by
  have hpattern : e.pattern = e'.pattern := by rw [h.compiled e he, hp, ht]
  have hmethods : some e.methods = some e'.methods := by rw [← h.last e he, ← hm, ht]
  cases e
  cases e'
  cases hpattern
  cases hmethods
  rfl

theorem Records.exists_entry (h : r.Records ds) {text : String} {methods : MethodSet}
    (hm : lastMethods ds text = some methods) :
    ∃ e ∈ r.entries, e.text = text ∧ e.methods = methods := by
  obtain ⟨e, he, rfl⟩ := List.mem_map.1 ((h.mem_iff text).2 (mem_texts_of_lastMethods hm))
  rw [h.last e he] at hm
  exact ⟨e, he, rfl, Option.some.inj hm⟩

theorem Records.get?_eq (h : r.Records ds) (text : String) : r.get? text = lastMethods ds text := by
  unfold get?
  cases hf : r.entries.find? (·.text == text) with
  | some e =>
    have ht := List.find?_some hf
    have he := h.last e (List.mem_of_find?_eq_some hf)
    rw [eq_of_beq ht] at he
    exact he.symm
  | none =>
    cases hm : lastMethods ds text with
    | none => rfl
    | some methods =>
      obtain ⟨e, he, ht, -⟩ := h.exists_entry hm
      exact absurd (beq_iff_eq.2 ht) (List.find?_eq_none.1 hf e he)

theorem Records.size_eq (h : r.Records ds) : r.size = (texts ds).toFinset.card := by
  have htexts : (r.entries.map (·.text)).toFinset = (texts ds).toFinset := by
    ext text
    rw [List.mem_toFinset, List.mem_toFinset, h.mem_iff]
  rw [← htexts, List.toFinset_card_of_nodup h.nodup, List.length_map]
  rfl

theorem Records.covers_iff (h : r.Records ds) {e : Entry} (he : e ∈ r.entries)
    (path method : String) : e.covers path method = true ↔ Covers ds path method e.text := by
  unfold Entry.covers Covers
  rw [Bool.and_eq_true, h.compiled e he, h.last e he]
  constructor
  · exact fun hc => ⟨e.methods, rfl, hc⟩
  · rintro ⟨_, ⟨⟩, hc⟩
    exact hc

theorem Records.exists_entry_of_covers (h : r.Records ds) {path method text : String}
    (hc : Covers ds path method text) :
    ∃ e ∈ r.entries, e.text = text ∧ e.covers path method = true := by
  have ⟨_, hm, _⟩ := hc
  obtain ⟨e, he, rfl, -⟩ := h.exists_entry hm
  exact ⟨e, he, rfl, (h.covers_iff he path method).2 hc⟩

theorem Records.lookup_eq_none_iff (h : r.Records ds) (path method : String) :
    r.lookup path method = none ↔ ∀ text, ¬ Covers ds path method text := by
  unfold lookup
  rw [List.find?_eq_none]
  constructor
  · intro hn text hc
    obtain ⟨e, he, -, hec⟩ := h.exists_entry_of_covers hc
    exact hn e he hec
  · exact fun hn e he hc => hn e.text ((h.covers_iff he path method).1 hc)

/-- What a look-up finds was inserted before every other text that covers the request. -/
theorem Records.isFirst_of_lookup (h : r.Records ds) {path method : String} {e : Entry}
    (hl : r.lookup path method = some e) : IsFirst ds path method e := by
  obtain ⟨hc, before, after, hes, hbefore⟩ := List.find?_eq_some_iff_append.1 hl
  have he : e ∈ r.entries := List.mem_of_find?_eq_some hl
  refine ⟨h.compiled e he, h.last e he, (h.covers_iff he path method).1 hc, fun text ht => ?_⟩
  obtain ⟨f, hf, rfl, hfc⟩ := h.exists_entry_of_covers ht
  have horder := h.order
  rw [hes, List.map_append, List.map_cons, List.pairwise_append, List.pairwise_cons] at horder
  rw [hes, List.mem_append, List.mem_cons] at hf
  obtain hf | rfl | hf := hf
  · have := hbefore f hf
    rw [hfc] at this
    exact absurd this nofun
  · exact Nat.le_refl _
  · exact Nat.le_of_lt (horder.2.1.1 _ (List.mem_map_of_mem hf))

theorem Records.lookup_eq_some_iff (h : r.Records ds) (path method : String) (e : Entry) :
    r.lookup path method = some e ↔ IsFirst ds path method e := by
  constructor
  · exact h.isFirst_of_lookup
  · intro hfirst
    cases hl : r.lookup path method with
    | none => exact absurd hfirst.covers ((h.lookup_eq_none_iff path method).1 hl e.text)
    | some f =>
      have hf := h.isFirst_of_lookup hl
      have hidx := Nat.le_antisymm (hf.first _ hfirst.covers) (hfirst.first _ hf.covers)
      have ht := (List.idxOf_inj (mem_texts_of_lastMethods hf.last)).1 hidx
      rw [h.eq_of_text_eq (List.mem_of_find?_eq_some hl) hfirst.compiled hfirst.last ht]

/-! ## Lists of declarations -/

/-- Reading succeeds when every declaration can be read, and inserts what was read. -/
theorem insertAll_eq_ok_iff {entries : List String} {r' : Registry} :
    r.insertAll entries = .ok r' ↔
      ∃ ds, entries.map Declaration.parse? = ds.map some ∧ r' = r.declare ds := by
  induction entries generalizing r with
  | nil =>
    constructor
    · rintro ⟨⟩
      exact ⟨[], rfl, rfl⟩
    · rintro ⟨ds, hds, rfl⟩
      obtain rfl := List.map_eq_nil_iff.1 hds.symm
      rfl
  | cons entry entries ih =>
    unfold insertAll
    cases hp : Declaration.parse? entry with
    | none =>
      constructor
      · intro h
        cases h
      · rintro ⟨ds, hds, -⟩
        rw [List.map_cons, hp] at hds
        cases ds <;> cases hds
    | some d =>
      rw [ih]
      constructor
      · rintro ⟨ds, hds, rfl⟩
        refine ⟨d :: ds, ?_, rfl⟩
        rw [List.map_cons, List.map_cons, hp, hds]
      · rintro ⟨ds, hds, rfl⟩
        rw [List.map_cons, hp] at hds
        cases ds with
        | nil => cases hds
        | cons d' ds =>
          obtain ⟨hd, htail⟩ := List.cons.inj hds
          obtain rfl := Option.some.inj hd
          exact ⟨ds, htail, rfl⟩

/-- Everything that a registry tells reflects what was inserted into it. -/
structure Reflects (ds : List Declaration) (r : Registry) : Prop where
  records : r.Records ds
  once : (r.entries.map (·.text)).Nodup
  get? : ∀ text, r.get? text = lastMethods ds text
  size : r.size = (texts ds).toFinset.card
  lookup_some : ∀ path method e, r.lookup path method = some e ↔ IsFirst ds path method e
  lookup_none : ∀ path method, r.lookup path method = none ↔ ∀ text, ¬ Covers ds path method text

/-- **Insertions.** After insertions one after another the entries are the inserted texts, each once, in
the order of their first insertions, with the methods of their last ones, and look-ups go by that. A list
of declarations is read into the registry of its declarations. -/
theorem reflects_insertions :
    (∀ ds, (empty.declare ds).Reflects ds) ∧
    ∀ entries r, ofEntries entries = .ok r ↔
      ∃ ds, entries.map Declaration.parse? = ds.map some ∧ r = empty.declare ds ∧ r.Reflects ds := by
  have hall (ds : List Declaration) : (empty.declare ds).Reflects ds := by
    have h : (empty.declare ds).Records ds := records_empty.declare ds
    exact ⟨h, h.nodup, h.get?_eq, h.size_eq, h.lookup_eq_some_iff, h.lookup_eq_none_iff⟩
  refine ⟨hall, fun entries r => insertAll_eq_ok_iff.trans ?_⟩
  constructor
  · rintro ⟨ds, hds, rfl⟩
    exact ⟨ds, hds, rfl, hall ds⟩
  · rintro ⟨ds, hds, rfl, -⟩
    exact ⟨ds, hds, rfl⟩

end EndpointGate.Registry
