import Mathlib.Data.List.Forall2
import RelationalCatalog.Proofs.Types.Assignability
import RelationalCatalog.Proofs.Types.Registration

/-!
# Registries of rearranged types

Types can be declared in another order, and the super types of each in another order or more than
once (`TypeDescriptor.Rearranged`). The search for super types then takes another way, but it finds
the same names: `TypeRegistry.LeadsTo` does not see the order, and all that a search finds is
defined by it. So a type counts as the same types (`TypeRegistry.isAssignable_of_rearranged`), and
as rearranged types are registered too (`TypeRegistry.exists_ofDescriptors_of_rearranged`), only
the listing of the types can tell the two registries apart.
-/

namespace RelationalCatalog

/-- Of two lists that are related one by one, each member of the first has one in the second. -/
theorem exists_mem_of_forall₂ {α β : Type} {related : α → β → Prop} {as : List α} {bs : List β}
    (h : List.Forall₂ related as bs) {a : α} (ha : a ∈ as) : ∃ b ∈ bs, related a b := by
  induction h with
  | nil => exact absurd ha List.not_mem_nil
  | cons hfirst _ ih =>
    rcases List.mem_cons.mp ha with rfl | ha
    · exact ⟨_, List.mem_cons_self, hfirst⟩
    · obtain ⟨b, hb, hrelated⟩ := ih ha
      exact ⟨b, List.mem_cons_of_mem _ hb, hrelated⟩

namespace TypeDescriptor

/-- The same type with the same super types, these maybe in another order or more than once. -/
structure Alike (d d' : TypeDescriptor) : Prop where
  name : d'.name = d.name
  description : d'.description = d.description
  superTypeNames : ∀ super, super ∈ d'.superTypeNames ↔ super ∈ d.superTypeNames

/-- The types in another order, each declared alike. -/
def Rearranged (ds ds' : List TypeDescriptor) : Prop :=
  ∃ ordered, ds.Perm ordered ∧ List.Forall₂ Alike ordered ds'

theorem Alike.refl (d : TypeDescriptor) : Alike d d := ⟨rfl, rfl, fun _ => Iff.rfl⟩

variable {ds ds' : List TypeDescriptor}

theorem Rearranged.refl (ds : List TypeDescriptor) : Rearranged ds ds :=
  ⟨ds, .refl ds, List.forall₂_same.mpr fun d _ => .refl d⟩

theorem map_name_of_alike (h : List.Forall₂ Alike ds ds') :
    ds'.map (·.name) = ds.map (·.name) := by
  induction h with
  | nil => rfl
  | cons hd _ ih => rw [List.map_cons, List.map_cons, hd.name, ih]

/-- The names are the same ones in another order. -/
theorem Rearranged.perm_names (h : Rearranged ds ds') :
    (ds.map (·.name)).Perm (ds'.map (·.name)) := by
  obtain ⟨ordered, hperm, halike⟩ := h
  rw [map_name_of_alike halike]
  exact hperm.map _

theorem Rearranged.isEmpty_eq (h : Rearranged ds ds') : ds.isEmpty = ds'.isEmpty := by
  have hnames := h.perm_names.isEmpty_eq
  rw [List.isEmpty_map, List.isEmpty_map] at hnames
  exact hnames

/-- Each type is declared alike after the rearrangement. -/
theorem Rearranged.exists_alike (h : Rearranged ds ds') {d : TypeDescriptor} (hd : d ∈ ds) :
    ∃ d' ∈ ds', Alike d d' := by
  obtain ⟨ordered, hperm, halike⟩ := h
  exact exists_mem_of_forall₂ halike (hperm.subset hd)

/-- There are no other types after the rearrangement. -/
theorem Rearranged.exists_alike_of_mem (h : Rearranged ds ds') {d' : TypeDescriptor}
    (hd' : d' ∈ ds') : ∃ d ∈ ds, Alike d d' := by
  obtain ⟨ordered, hperm, halike⟩ := h
  have hflip : List.Forall₂ (flip Alike) ds' ordered := halike.flip
  obtain ⟨d, hd, hrelated⟩ := exists_mem_of_forall₂ hflip hd'
  exact ⟨d, hperm.symm.subset hd, hrelated⟩

end TypeDescriptor

namespace TypeRegistry

open TypeDescriptor (Rearranged)

variable {r r' : TypeRegistry}

/-- Names lead to the same names. -/
theorem leadsTo_iff_of_rearranged (h : Rearranged r.descriptors r'.descriptors)
    {name super : String} : r'.LeadsTo name super ↔ r.LeadsTo name super := by
  constructor
  · rintro ⟨d', hd', rfl, hsuper⟩
    obtain ⟨d, hd, halike⟩ := h.exists_alike_of_mem hd'
    exact ⟨d, hd, halike.name.symm, (halike.superTypeNames super).mp hsuper⟩
  · rintro ⟨d, hd, rfl, hsuper⟩
    obtain ⟨d', hd', halike⟩ := h.exists_alike hd
    exact ⟨d', hd', halike.name, (halike.superTypeNames super).mpr hsuper⟩

/-- **A type counts as the same types, however these are arranged.** -/
theorem isAssignable_of_rearranged (h : Rearranged r.descriptors r'.descriptors)
    (name target : String) : r'.isAssignable name target = r.isAssignable name target := by
  have hleads : r'.LeadsTo = r.LeadsTo :=
    funext fun _ => funext fun _ => propext (leadsTo_iff_of_rearranged h)
  rw [Bool.eq_iff_iff, isAssignable_iff_reflTransGen, isAssignable_iff_reflTransGen, hleads]

/-- The same types count as a target, listed in another order. -/
theorem mem_assignableTypeNames_of_rearranged (h : Rearranged r.descriptors r'.descriptors)
    (target name : String) :
    name ∈ r'.assignableTypeNames target ↔ name ∈ r.assignableTypeNames target := by
  rw [mem_assignableTypeNames, mem_assignableTypeNames, isAssignable_of_rearranged h]

/-- Rearranged types are registered too. -/
theorem exists_ofDescriptors_of_rearranged {ds ds' : List TypeDescriptor}
    (h : Rearranged ds ds') (hr : ofDescriptors ds = .ok r) :
    ∃ r', ofDescriptors ds' = .ok r' ∧ Rearranged r.descriptors r'.descriptors := by
  obtain ⟨rfl, hblank⟩ := ofDescriptors_eq_ok_iff.mp hr
  have hdistinct : (ds'.map (·.name)).Nodup := h.perm_names.nodup r.distinct
  refine ⟨ofDistinct ds' hdistinct, ofDescriptors_eq_ok_iff.mpr ⟨rfl, fun d' hd' => ?_⟩, h⟩
  obtain ⟨d, hd, halike⟩ := h.exists_alike_of_mem hd'
  rw [halike.name]
  exact hblank d hd

end TypeRegistry

end RelationalCatalog
