import InlineCache.Proofs.Shape.Canonical
import InlineCache.Proofs.Store.Ledger

/-!
# Ledgers determine layouts

The effective kind of a name in a ledger is the kind that all values written under it have, or
`boxed` if they differ. The layout that a ledger asks for lists its names in the order in which they
were first written, each with its effective kind. A store that has this layout has it again after a
write, whichever way the write goes: a new name is added with the kind of its value, a value of the
effective kind changes nothing, and any other value boxes the name.

## Main definitions

* `Ledger.kinds`, `Ledger.effectiveKind`: the kinds written under a name, and the slot that takes
  them
* `Ledger.signature`: the layout that a ledger asks for

## Main results

* `effectiveKind_add_of_mem`: a value written under an old name joins the effective kind
* `effectiveKind_eq_iff`, `effectiveKind_eq_of_perm`: the order of the writes makes no difference
* `AttributeStore.shape_set`, `AttributeStore.signature_of_set`: the layout that a write leaves
* `AttributeStore.signature_set`: a write keeps a store laid out as its ledger asks
-/

namespace InlineCache

namespace Ledger

/-- The kinds of the values written under a name, the oldest first. -/
def kinds (ledger : Ledger) (name : String) : List Kind :=
  (ledger.lines.filter fun line => line.1 = name).map fun line => line.2.kind

/-- The effective kind of a name: the kind of all values written under it, or `boxed` if their kinds
differ. -/
def effectiveKind (ledger : Ledger) (name : String) : Kind :=
  match ledger.kinds name with
  | [] => .boxed
  | kind :: rest => if ∀ other ∈ rest, other = kind then kind else .boxed

/-- The names in the order in which they were first written, with their effective kinds. -/
def signature (ledger : Ledger) : List (String × Kind) :=
  ledger.names.map fun name => (name, ledger.effectiveKind name)

variable {ledger ledger' : Ledger} {name other : String} {value : Value} {kind : Kind}

/-! ## Effective kinds -/

theorem mem_kinds_iff :
    kind ∈ ledger.kinds name ↔ ∃ value, (name, value) ∈ ledger.lines ∧ value.kind = kind := by
  simp [kinds]

theorem kinds_eq_nil_iff : ledger.kinds name = [] ↔ name ∉ ledger.names := by
  rw [mem_names_iff, List.eq_nil_iff_forall_not_mem]
  simp only [mem_kinds_iff]
  constructor
  · rintro none ⟨value, mem⟩
    exact none value.kind ⟨value, mem, rfl⟩
  · rintro none kind ⟨value, mem, -⟩
    exact none ⟨value, mem⟩

theorem kinds_add_self :
    (ledger.add name value).kinds name = ledger.kinds name ++ [value.kind] := by
  simp [kinds, add]

theorem kinds_add_of_ne (h : other ≠ name) :
    (ledger.add name value).kinds other = ledger.kinds other := by
  simp [kinds, add, Ne.symm h]

theorem effectiveKind_of_not_mem (h : name ∉ ledger.names) :
    ledger.effectiveKind name = .boxed := by
  rw [effectiveKind, kinds_eq_nil_iff.2 h]

/-- **The effective kind of a name that was written** is primitive if all its values have that
kind. -/
theorem effectiveKind_eq_iff (mem : name ∈ ledger.names) (primitive : kind.isPrimitive = true) :
    ledger.effectiveKind name = kind ↔
      ∀ value, (name, value) ∈ ledger.lines → value.kind = kind := by
  have every : (∀ value, (name, value) ∈ ledger.lines → value.kind = kind) ↔
      ∀ other ∈ ledger.kinds name, other = kind := by
    simp only [mem_kinds_iff]
    constructor
    · rintro uniform _ ⟨value, mem, rfl⟩
      exact uniform value mem
    · exact fun uniform value mem => uniform _ ⟨value, mem, rfl⟩
  rw [every, effectiveKind]
  cases all : ledger.kinds name with
  | nil => exact absurd mem (kinds_eq_nil_iff.1 all)
  | cons first rest =>
    have boxed : kind ≠ .boxed := Kind.isPrimitive_iff.1 primitive
    by_cases uniform : ∀ other ∈ rest, other = first
    · simp only [if_pos uniform, List.forall_mem_cons]
      constructor
      · rintro rfl
        exact ⟨rfl, uniform⟩
      · exact And.left
    · simp only [if_neg uniform, List.forall_mem_cons]
      refine iff_of_false (Ne.symm boxed) ?_
      rintro ⟨rfl, same⟩
      exact uniform same

/-- The order of the writes makes no difference to the effective kinds. -/
theorem effectiveKind_eq_of_perm (perm : ledger.lines.Perm ledger'.lines) (name : String) :
    ledger.effectiveKind name = ledger'.effectiveKind name := by
  have names : name ∈ ledger.names ↔ name ∈ ledger'.names := by
    simp only [mem_names_iff, perm.mem_iff]
  by_cases mem : name ∈ ledger.names
  · have same {kind : Kind} (primitive : kind.isPrimitive = true) :
        ledger.effectiveKind name = kind ↔ ledger'.effectiveKind name = kind := by
      rw [effectiveKind_eq_iff mem primitive, effectiveKind_eq_iff (names.1 mem) primitive]
      simp only [perm.mem_iff]
    by_cases primitive : (ledger.effectiveKind name).isPrimitive = true
    · exact ((same primitive).1 rfl).symm
    · by_cases primitive' : (ledger'.effectiveKind name).isPrimitive = true
      · exact (same primitive').2 rfl
      · rw [Kind.isPrimitive_iff, not_not] at primitive primitive'
        rw [primitive, primitive']
  · rw [effectiveKind_of_not_mem mem, effectiveKind_of_not_mem (mt names.2 mem)]

/-! ## One line more -/

theorem effectiveKind_add_of_ne (h : other ≠ name) :
    (ledger.add name value).effectiveKind other = ledger.effectiveKind other := by
  rw [effectiveKind, kinds_add_of_ne h, effectiveKind]

theorem effectiveKind_add_of_not_mem (h : name ∉ ledger.names) :
    (ledger.add name value).effectiveKind name = value.kind := by
  rw [effectiveKind, kinds_add_self, kinds_eq_nil_iff.2 h]
  simp

/-- **A value written under an old name** joins the effective kind. -/
theorem effectiveKind_add_of_mem (h : name ∈ ledger.names) :
    (ledger.add name value).effectiveKind name =
      (ledger.effectiveKind name).join value.kind := by
  rw [effectiveKind, kinds_add_self, effectiveKind]
  cases all : ledger.kinds name with
  | nil => exact absurd h (kinds_eq_nil_iff.1 all)
  | cons first rest =>
    simp only [List.cons_append, List.forall_mem_append, List.forall_mem_singleton, Kind.join]
    by_cases uniform : ∀ other ∈ rest, other = first
    · rw [if_pos uniform]
      by_cases same : value.kind = first
      · rw [if_pos ⟨uniform, same⟩, if_pos same.symm]
      · rw [if_neg (fun both => same both.2), if_neg (Ne.symm same)]
    · rw [if_neg (fun both => uniform both.1), if_neg uniform]
      split <;> rfl

theorem signature_add_of_not_mem (h : name ∉ ledger.names) :
    (ledger.add name value).signature = ledger.signature ++ [(name, value.kind)] := by
  have older : ∀ other ∈ ledger.names,
      (other, (ledger.add name value).effectiveKind other) =
        (other, ledger.effectiveKind other) := by
    intro other mem
    have ne : other ≠ name := fun same => h (same ▸ mem)
    rw [effectiveKind_add_of_ne ne]
  rw [signature, names_add, if_neg h, List.map_append, List.map_congr_left older, signature,
    List.map_singleton, effectiveKind_add_of_not_mem h]

theorem signature_add_of_mem (h : name ∈ ledger.names) :
    (ledger.add name value).signature = ledger.signature.map fun entry =>
      if entry.1 = name then (entry.1, entry.2.join value.kind) else entry := by
  rw [signature, names_add, if_pos h, signature, List.map_map]
  refine List.map_congr_left fun other _ => ?_
  by_cases same : other = name
  · simp [same, effectiveKind_add_of_mem h]
  · simp [same, effectiveKind_add_of_ne same]

/-- Ledgers ask for one layout if they agree on the order of the names and on their kinds. -/
theorem signature_eq_iff : ledger.signature = ledger'.signature ↔
    ledger.names = ledger'.names ∧
      ∀ name, ledger.effectiveKind name = ledger'.effectiveKind name := by
  constructor
  · intro same
    have names : ledger.names = ledger'.names := by
      simpa [signature, Function.comp_def] using congrArg (List.map Prod.fst) same
    refine ⟨names, fun name => ?_⟩
    by_cases mem : name ∈ ledger.names
    · rw [signature, signature, ← names, List.map_inj_left] at same
      exact congrArg Prod.snd (same name mem)
    · rw [effectiveKind_of_not_mem mem, effectiveKind_of_not_mem (names ▸ mem)]
  · rintro ⟨names, kinds⟩
    simp only [signature, names, kinds]

end Ledger

namespace AttributeStore

variable {store : AttributeStore} {space : ShapeSpace} {registry : RegistryId} {ledger : Ledger}
  {location : Location} {name : String} {value : Value}

/-! ## The shape that a write leaves -/

/-- A store that migrates to a shape is laid out by it. -/
@[simp] theorem migrate_shape (store : AttributeStore) (target : Shape) :
    (store.migrate target).shape = target := by
  have placed : ∀ (values : List (Location × Value)) (moved : AttributeStore),
      (values.foldl (fun moved entry => moved.place entry.1 entry.2) moved).shape =
        moved.shape := by
    intro values
    induction values with
    | nil => exact fun _ => rfl
    | cons entry rest ih =>
      intro moved
      rw [List.foldl_cons, ih, place_shape]
  exact placed _ _

@[simp] theorem overwrite_shape (store : AttributeStore) (name : String) (value : Value) :
    (store.overwrite name value).shape = store.shape := by
  unfold overwrite
  split
  · exact place_shape ..
  · rfl

/-- **The shape that a write leaves**, from the slot that the name had before. -/
theorem shape_set (store : AttributeStore) (space : ShapeSpace) (registry : RegistryId)
    (name : String) (value : Value) :
    (store.set space registry name value).store.shape =
      match store.location? name with
      | none => (space.withAttribute registry store.shape name value.kind).1
      | some location =>
        if location.kind.accepts value.kind then store.shape
        else (space.widen registry store.shape name).1 := by
  unfold set
  cases store.location? name with
  | none => exact place_shape ..
  | some location =>
    dsimp only
    split
    · exact place_shape ..
    · rw [overwrite_shape, migrate_shape]

/-- **The layout that a write leaves**, from the slot that the name had before: a new name comes
last, and a slot that refuses the value is boxed. -/
theorem signature_of_set (sound : space.Sound) (hr : registry.index < space.registries.size)
    (published : space.Published store.shape) (name : String) (value : Value) :
    (store.set space registry name value).store.shape.signature =
      match store.location? name with
      | none => store.shape.signature ++ [(name, value.kind)]
      | some location =>
        if location.kind.accepts value.kind then store.shape.signature
        else ShapeSpace.boxing name store.shape.signature := by
  rw [shape_set]
  cases found : store.location? name with
  | none =>
    obtain ⟨-, serial, id, successor⟩ := sound.withAttribute hr published name value.kind
    dsimp only
    rw [successor, Shape.signature_successor]
  | some location =>
    dsimp only
    by_cases accepts : location.kind.accepts value.kind = true
    · rw [if_pos accepts, if_pos accepts]
    · rw [if_neg accepts, if_neg accepts,
        ShapeSpace.signature_widen sound hr found (Kind.not_accepts_iff.1 accepts).1]

/-- The slot of a name has its effective kind. -/
theorem kind_of_signature_eq (laid : store.shape.signature = ledger.signature)
    (found : store.location? name = some location) :
    name ∈ ledger.names ∧ location.kind = ledger.effectiveKind name := by
  have mem : (name, location.kind) ∈ store.shape.signature :=
    List.mem_map_of_mem (Shape.mem_properties_of_find? found)
  rw [laid, Ledger.signature, List.mem_map] at mem
  obtain ⟨other, mem, same⟩ := mem
  obtain ⟨rfl, kind⟩ := Prod.mk.inj same
  exact ⟨mem, kind.symm⟩

/-- **A write keeps a store laid out as its ledger asks.** -/
theorem signature_set (sound : space.Sound) (hr : registry.index < space.registries.size)
    (published : space.Published store.shape)
    (laid : store.shape.signature = ledger.signature) (name : String) (value : Value) :
    (store.set space registry name value).store.shape.signature =
      (ledger.add name value).signature := by
  rw [signature_of_set sound hr published]
  cases found : store.location? name with
  | none =>
    have fresh : name ∉ ledger.names := by
      have absent := Shape.find?_eq_none_iff.1 found
      rw [Shape.names_eq_map_signature, laid] at absent
      simpa [Ledger.signature, Function.comp_def] using absent
    dsimp only
    rw [laid, Ledger.signature_add_of_not_mem fresh]
  | some location =>
    obtain ⟨mem, kind⟩ := kind_of_signature_eq laid found
    dsimp only
    rw [Ledger.signature_add_of_mem mem, ← laid]
    have entry_kind : ∀ entry ∈ store.shape.signature, entry.1 = name →
        entry.2 = location.kind := by
      rw [laid]
      rintro _ entry rfl
      obtain ⟨other, -, rfl⟩ := List.mem_map.1 entry
      exact kind.symm
    by_cases accepts : location.kind.accepts value.kind = true
    · rw [if_pos accepts]
      refine (List.map_id _).symm.trans (List.map_congr_left fun entry mem => ?_)
      by_cases same : entry.1 = name
      · have kept := Kind.accepts_iff_join.1 accepts
        rw [if_pos same, entry_kind entry mem same, kept, ← entry_kind entry mem same]
        rfl
      · rw [if_neg same]
        rfl
    · have differ := (Kind.not_accepts_iff.1 accepts).2
      rw [if_neg accepts, ShapeSpace.boxing]
      refine List.map_congr_left fun entry mem => ?_
      by_cases same : entry.1 = name
      · rw [if_pos same, if_pos same, entry_kind entry mem same, Kind.join, if_neg differ]
      · rw [if_neg same, if_neg same]

/-- A write through the registry that owns the origin of a store keeps the origin. -/
theorem origin_set (sound : space.Sound) (hr : registry.index < space.registries.size)
    (published : space.Published store.shape) (own : store.shape.origin = space.root registry)
    (name : String) (value : Value) :
    (store.set space registry name value).store.shape.origin = store.shape.origin := by
  rw [shape_set]
  cases store.location? name with
  | none => exact sound.origin_withAttribute hr published name value.kind
  | some location =>
    dsimp only
    split
    · rfl
    · exact sound.origin_widen hr own name

end AttributeStore

end InlineCache
