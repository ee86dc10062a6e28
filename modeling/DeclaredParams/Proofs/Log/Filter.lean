import DeclaredParams.Log.Filter
import DeclaredParams.Log.Inspection

/-!
# What the standard filter lets through

The standard filter lets warnings and errors through, of every target. What the reading, an
inspection and its result record is less important than that, so all of it is silent
(`silent_ofFileRead`, `silent_ofInspection`, `silent_ofResult`).
-/

set_option autoImplicit false
set_option relaxedAutoImplicit false

namespace DeclaredParams

namespace LogRecord

/-- The standard filter does not let the record through. -/
def Silent (record : LogRecord) : Prop :=
  LogFilter.standard.admits record = false

theorem silent_ofFileRead (path : String) (content : Bytes) : (ofFileRead path content).Silent :=
  rfl

theorem silent_ofSearch (shapes : ShapeSet) (recognition : Option Recognition) :
    (ofSearch shapes recognition).Silent := by
  cases recognition <;> rfl

theorem silent_ofClassification (classification : Classification) :
    (ofClassification classification).Silent := rfl

theorem silent_ofInspection (shapes : ShapeSet) (source : Text) :
    ∀ record ∈ ofInspection shapes source, record.Silent := by
  intro record hrecord
  rcases List.mem_cons.mp hrecord with rfl | hclassified
  · exact silent_ofSearch shapes _
  · obtain ⟨classification, -, rfl⟩ := List.mem_map.mp hclassified
    exact silent_ofClassification classification

theorem silent_ofResult (shapes : ShapeSet) (result : Option Shape) :
    (ofResult shapes result).Silent := by
  cases result <;> rfl

end LogRecord

end DeclaredParams
