import ColumnTypes.ColumnType.Basic
import ColumnTypes.Proofs.Display

/-!
# A descriptor is known from its spelling

The canonical spelling spells one term (`Spells.unique`), and a class path that loads the classes of
two descriptors with the same term resolves that term to both of them, so the two are one. Neither
step looks at the limit on nesting: it holds of descriptors that are too deep to be read as well.
-/

namespace ColumnTypes

namespace Descriptor

/-- Descriptors with the same term are the same. -/
theorem eq_of_term_eq {a b : Descriptor} (same : a.term = b.term) : a = b := by
  have denoted := @ClassPath.denotes_term ⟨(a.externals ++ b.externals).map (·.text)⟩
  have first := denoted a fun name mem =>
    List.mem_map_of_mem (List.mem_append_left b.externals mem)
  have second := denoted b fun name mem =>
    List.mem_map_of_mem (List.mem_append_right a.externals mem)
  have resolved := (ClassPath.resolve_eq_ok_iff.mpr first).symm.trans
    (same ▸ ClassPath.resolve_eq_ok_iff.mpr second)
  exact Except.ok.inj resolved

theorem eq_of_display_eq {a b : Descriptor} (same : a.display = b.display) : a = b := by
  have spelled : Spells a.display.toList b.term := same ▸ ClassPath.spells_display b
  exact eq_of_term_eq ((ClassPath.spells_display a).unique spelled)

end Descriptor

theorem Custom.descriptor_display_of_display {a b : Custom} (same : a.display = b.display) :
    a.descriptor.display = b.descriptor.display := by
  have quoted : '\'' :: (a.descriptor.display.toList ++ ['\'']) =
      '\'' :: (b.descriptor.display.toList ++ ['\'']) := by
    simpa [Custom.display] using congrArg String.toList same
  exact String.toList_inj.mp (List.append_cancel_right (List.cons.inj quoted).2)

/-- Descriptors have the same spelling exactly if they are the same, however deep they nest, and so
do custom types. -/
theorem display_identifies :
    (∀ a b : Descriptor, a.display = b.display ↔ a = b) ∧
    (∀ a b : Custom, a.display = b.display ↔ a = b) := by
  constructor
  · intro a b
    exact ⟨Descriptor.eq_of_display_eq, congrArg Descriptor.display⟩
  · rintro ⟨a⟩ ⟨b⟩
    refine ⟨fun same => ?_, congrArg Custom.display⟩
    have stored := Custom.descriptor_display_of_display same
    exact congrArg Custom.mk (Descriptor.eq_of_display_eq stored)

end ColumnTypes
