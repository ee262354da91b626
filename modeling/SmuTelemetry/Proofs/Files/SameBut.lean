import Mathlib
import SmuTelemetry.Files.Access

/-!
Trees that differ in what one open file holds. Paths lead to the same nodes in both, and
every path that does not lead to that file reads the same.
-/

namespace SmuTelemetry.FileTree

set_option autoImplicit false

structure SameBut (handle : Option Handle) (before after : FileTree) : Prop where
  nodes : after.nodes = before.nodes
  workingPlace : after.workingPlace = before.workingPlace
  nextId : after.nextId = before.nextId
  contents : ∀ id, handle ≠ some (.file id) → after.contents id = before.contents id

namespace SameBut

variable {handle : Option Handle} {before after : FileTree}

theorem refl (handle : Option Handle) (tree : FileTree) : SameBut handle tree tree :=
  ⟨rfl, rfl, rfl, fun _ _ => rfl⟩

theorem trans {final : FileTree} (first : SameBut handle before after)
    (second : SameBut handle after final) : SameBut handle before final where
  nodes := second.nodes.trans first.nodes
  workingPlace := second.workingPlace.trans first.workingPlace
  nextId := second.nextId.trans first.nextId
  contents id other := (second.contents id other).trans (first.contents id other)

theorem setContent (tree : FileTree) (id : FileId) (content : Content) :
    SameBut (some (.file id)) tree (tree.setContent id content) := by
  refine ⟨rfl, rfl, rfl, ?_⟩
  intro other distinct
  unfold FileTree.setContent
  apply if_neg
  intro same
  exact distinct (by rw [same])

theorem resolve_eq (same : SameBut handle before after) (path : String) :
    after.resolve path = before.resolve path := by
  obtain ⟨nodes, workingPlace, -, -⟩ := same
  cases before
  cases after
  subst nodes workingPlace
  rfl

theorem readBytes_eq (same : SameBut handle before after) {path : String}
    (elsewhere : ∀ id, handle = some (.file id) → before.resolve path ≠ .ok (.file id)) :
    after.readBytes path = before.readBytes path := by
  unfold readBytes
  rw [same.resolve_eq path]
  cases resolved : before.resolve path with
  | error fault => rfl
  | ok node =>
      cases node with
      | directory => rfl
      | device device => cases device <;> rfl
      | file id =>
          have other : handle ≠ some (.file id) := fun opened => elsewhere id opened resolved
          simp only [same.contents id other]

end SameBut

end SmuTelemetry.FileTree
