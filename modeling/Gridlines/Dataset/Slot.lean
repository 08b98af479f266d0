import Gridlines.Dataset.Basic

/-!
# The slot of the service's dataset

The service holds one dataset, or none until one has been loaded.  The slot is filled once: what
comes later is handed back.
-/

namespace Gridlines

/-- The dataset of the service, once there is one. -/
structure Slot where
  dataset : Option Dataset

namespace Slot

/-- The slot before a dataset is loaded. -/
def empty : Slot := ⟨none⟩

/-- The slot that holds a dataset. -/
def loaded (d : Dataset) : Slot := ⟨some d⟩

/-- Whether the slot holds a dataset. -/
def isLoaded (slot : Slot) : Bool := slot.dataset.isSome

/-- Puts a dataset into an empty slot: the slot then, and the dataset if it was not taken. -/
def install (slot : Slot) (d : Dataset) : Slot × Option Dataset :=
  match slot.dataset with
  | none => (loaded d, none)
  | some _ => (slot, some d)

/-- Loads a file into the slot; a file that is no dataset changes nothing. -/
def load (slot : Slot) (loadedAt : String) (files : Files) (path : String) : Slot :=
  match Dataset.load loadedAt files path with
  | .ok d => (slot.install d).1
  | .error _ => slot

end Slot

end Gridlines
