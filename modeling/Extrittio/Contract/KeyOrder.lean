import Extrittio.Contract.Canonical
import Extrittio.Contract.Layers

/-!
Equality of JSON values up to the order of the keys of their objects. Sorting the keys
decides it, and values whose objects are maps are sorted.
-/
namespace Extrittio

open List

namespace Json

/-- An object anywhere in a value lists its fields in another order, any number of times. -/
inductive KeyOrder : Json → Json → Prop
  | refl (value : Json) : KeyOrder value value
  | trans {a b c : Json} : KeyOrder a b → KeyOrder b c → KeyOrder a c
  | object {fields fields' : List (String × Json)} :
    (fields.map Prod.fst).Nodup → fields.Perm fields' → KeyOrder (.object fields) (.object fields')
  | item {a b : Json} (before after : List Json) : KeyOrder a b →
    KeyOrder (.array (before ++ a :: after)) (.array (before ++ b :: after))
  | field {a b : Json} (before after : List (String × Json)) (key : String) : KeyOrder a b →
    KeyOrder (.object (before ++ (key, a) :: after)) (.object (before ++ (key, b) :: after))

theorem map_fst_sortFields (fields : List (String × Json)) :
    (sortFields fields).map Prod.fst = fields.map Prod.fst := by
  rw [sortFields_eq, map_map]
  rfl

theorem KeyOrder.sortValue_eq {a b : Json} (h : KeyOrder a b) : a.sortValue = b.sortValue := by
  induction h with
  | refl value => rfl
  | trans _ _ ih ih' => exact ih.trans ih'
  | @object fields fields' hkeys hperm =>
    have hsorted : (sortFields fields).Perm (sortFields fields') := by
      rw [sortFields_eq, sortFields_eq]
      exact hperm.map _
    have hnodup : ((sortFields fields).map Prod.fst).Nodup := by rwa [map_fst_sortFields]
    rw [sortValue, sortValue, OrderedMap.ofList_congr hnodup
      ((hsorted.map Prod.fst).nodup_iff.mp hnodup) fun e => hsorted.mem_iff]
  | item before after _ ih =>
    rw [sortValue, sortValue, sortItems_eq, sortItems_eq, map_append, map_append,
      map_cons, map_cons, ih]
  | field before after key _ ih =>
    rw [sortValue, sortValue, sortFields_eq, sortFields_eq, map_append, map_append,
      map_cons, map_cons, ih]

namespace Canonical

theorem ofMap {map : OrderedMap String Json} (h : ∀ entry ∈ map.entries, entry.2.Canonical) :
    (Json.ofMap map).Canonical := object_iff.mpr ⟨map.inOrder, h⟩

theorem sortValue_eq {value : Json} (h : value.Canonical) : value.sortValue = value := by
  induction h with
  | @intro value hinOrder _ _ ihitems ihentries =>
    cases value with
    | array items =>
      rw [sortValue, sortItems_eq, map_congr_left (ihitems items rfl), map_id']
    | object fields =>
      have hfields : sortFields fields = fields := by
        rw [sortFields_eq]
        refine (map_congr_left fun entry hentry => ?_).trans (map_id' fields)
        rw [ihentries fields rfl entry hentry]
      rw [sortValue, hfields]
      exact congrArg Json.ofMap (OrderedMap.ofList_entries ⟨fields, hinOrder fields rfl⟩)
    | _ => rfl

end Canonical

mutual

theorem canonical_sortValue : ∀ value : Json, value.sortValue.Canonical
  | .null | .bool _ | .integer _ | .float _ | .string _ => ⟨nofun, nofun, nofun⟩
  | .array items => Canonical.array_iff.mpr (canonical_sortItems items)
  | .object fields => .ofMap fun entry hentry =>
    canonical_sortFields fields entry (OrderedMap.of_mem_ofList hentry)

theorem canonical_sortItems : ∀ items : List Json, ∀ item ∈ sortItems items, item.Canonical
  | [] => nofun
  | item :: items => forall_mem_cons.mpr ⟨canonical_sortValue item, canonical_sortItems items⟩

theorem canonical_sortFields :
    ∀ fields : List (String × Json), ∀ field ∈ sortFields fields, field.2.Canonical
  | [] => nofun
  | (_, value) :: fields => forall_mem_cons.mpr
    ⟨canonical_sortValue value, canonical_sortFields fields⟩

end

end Json

end Extrittio
