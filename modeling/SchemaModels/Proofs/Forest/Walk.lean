/-
The walk from several roots comes to the classes that are nested in them at any depth.
-/
import SchemaModels.Forest
import SchemaModels.Proofs.Nesting

namespace SchemaModels
namespace Forest

abbrev Nests (f : Forest) (id j : Nat) : Prop := j ∈ f.innerOf id

/-- A class is one of the roots or nested in one, at any depth. -/
def Reaches (f : Forest) (roots : List Nat) (id : Nat) : Prop :=
  ∃ root ∈ roots, Relation.ReflTransGen f.Nests root id

theorem mem_known_iff {f : Forest} {ids : List Nat} {id : Nat} :
    id ∈ f.known ids ↔ id ∈ ids ∧ id < f.size := by
  simp [known]

theorem lt_size_iff_of_reflTransGen {f : Forest} {root id : Nat}
    (h : Relation.ReflTransGen f.Nests root id) : root < f.size ↔ id < f.size := by
  induction h with
  | refl => exact Iff.rfl
  | tail _ hlink ih =>
    obtain ⟨hlt, hsize⟩ := lt_of_mem_innerOf hlink
    exact ih.trans ⟨fun _ => hsize, fun h => Nat.lt_trans hlt h⟩

theorem mem_walk_iff {f : Forest} {roots : List Nat} {id : Nat} :
    id ∈ f.walk roots ↔ id < f.size ∧ f.Reaches roots id := by
  have hkeys : Nesting.TellApart (fun j : Nat => j) (f.classNesting.listing (f.known roots)) :=
    fun _ _ _ _ h => h
  have hvisit : id ∈ f.walk roots ↔ id ∈ f.classNesting.listing (f.known roots) :=
    Nesting.mem_visit_iff hkeys
  rw [hvisit, Nesting.mem_listing_iff]
  constructor
  · rintro ⟨root, hroot, hid⟩
    obtain ⟨hroot, hsize⟩ := mem_known_iff.mp hroot
    have hway := Nesting.mem_preOrder_iff_reflTransGen.mp hid
    exact ⟨(lt_size_iff_of_reflTransGen hway).mp hsize, root, hroot, hway⟩
  · rintro ⟨hsize, root, hroot, hway⟩
    have hknown : root < f.size := (lt_size_iff_of_reflTransGen hway).mpr hsize
    exact ⟨root, mem_known_iff.mpr ⟨hroot, hknown⟩, Nesting.mem_preOrder_iff_reflTransGen.mpr hway⟩

end Forest
end SchemaModels
