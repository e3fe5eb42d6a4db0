import RelationalCatalog.Proofs.Types.Reachability

/-!
# The types that count as a type

`isAssignable` walks up from any name, registered or not, while `assignableTypeNames` lists the
registered names from which the walk arrives. `mem_assignableTypeNames` says that they agree on
all names: a name that is not registered has no super types, so its walk ends where it begins,
and the list has its target whether that is registered or not.
-/

namespace RelationalCatalog

namespace TypeRegistry

variable {r : TypeRegistry} {name target : String}

/-- A type counts as itself. -/
theorem isAssignable_self (r : TypeRegistry) (name : String) : r.isAssignable name name = true :=
  if_pos rfl

/-- A name that is not registered counts as itself only. -/
theorem eq_of_isAssignable_of_notMem (h : name ∉ r.descriptors.map (·.name))
    (hassignable : r.isAssignable name target = true) : name = target := by
  rcases (isAssignable_iff_reflTransGen.mp hassignable).cases_head with heq | ⟨super, hleads, -⟩
  · exact heq
  · obtain ⟨d, hd, hname, -⟩ := hleads
    exact absurd (List.mem_map.mpr ⟨d, hd, hname⟩) h

/-- **The listed names are those that count as the target.** -/
theorem mem_assignableTypeNames :
    name ∈ r.assignableTypeNames target ↔ r.isAssignable name target = true := by
  rw [assignableTypeNames, List.mem_cons, List.mem_filter]
  constructor
  · rintro (rfl | ⟨-, h⟩)
    · exact isAssignable_self r name
    · exact (Bool.and_eq_true_iff.mp h).2
  · intro h
    by_cases heq : name = target
    · exact .inl heq
    · refine .inr ⟨?_, Bool.and_eq_true_iff.mpr ⟨bne_iff_ne.mpr heq, h⟩⟩
      by_cases hmem : name ∈ r.descriptors.map (·.name)
      · exact hmem
      · exact absurd (eq_of_isAssignable_of_notMem hmem h) heq

/-- The target comes first and the others in the order of their declaration, each once. -/
theorem assignableTypeNames_spec (r : TypeRegistry) (target : String) :
    (r.assignableTypeNames target).Nodup ∧
      ∃ others, r.assignableTypeNames target = target :: others ∧
        others.Sublist (r.descriptors.map (·.name)) := by
  refine ⟨List.nodup_cons.mpr ⟨fun h => ?_, r.distinct.sublist List.filter_sublist⟩,
    _, rfl, List.filter_sublist⟩
  obtain ⟨-, h⟩ := List.mem_filter.mp h
  exact bne_iff_ne.mp (Bool.and_eq_true_iff.mp h).1 rfl

end TypeRegistry

end RelationalCatalog
