import DeclaredParams.Text.Basic

/-!
# Texts written in UTF-8

`toUtf8` writes a text as bytes, character by character. `ofUtf8?_eq_some_iff` says that decoding
gives a text exactly for the bytes that write it, so it fails exactly where no text is written.
-/

set_option autoImplicit false
set_option relaxedAutoImplicit false

namespace DeclaredParams.Text

variable {text : Text} {bytes : Bytes}

/-- The bytes that write a text in UTF-8. -/
def toUtf8 (text : Text) : Bytes :=
  text.flatMap String.utf8EncodeChar

/-- Exactly the bytes that write a text are decoded to it. -/
theorem ofUtf8?_eq_some_iff : ofUtf8? bytes = some text ↔ toUtf8 text = bytes := by
  have hencoded : (String.ofList text).toByteArray = (toUtf8 text).toByteArray :=
    String.toByteArray_ofList
  rw [ofUtf8?, Option.map_eq_some_iff]
  constructor
  · rintro ⟨string, hstring, rfl⟩
    rw [String.ofList_toList] at hencoded
    rw [← List.toByteArray_inj, ← hencoded]
    unfold String.fromUTF8? at hstring
    split at hstring
    · rw [← Option.some.inj hstring]
      rfl
    · exact absurd hstring (by simp)
  · intro hbytes
    refine ⟨String.ofList text, ?_, String.toList_ofList⟩
    have hvalid : ByteArray.IsValidUTF8 bytes.toByteArray := ⟨text, by rw [← hbytes]; rfl⟩
    rw [String.fromUTF8?, dif_pos hvalid, Option.some.injEq]
    apply String.toByteArray_inj.mp
    rw [hencoded, hbytes]
    rfl

/-- Decoding fails exactly where the bytes write no text. -/
theorem ofUtf8?_eq_none_iff : ofUtf8? bytes = none ↔ ∀ text, toUtf8 text ≠ bytes := by
  rw [Option.eq_none_iff_forall_ne_some]
  exact forall_congr' fun text ↦ not_congr ofUtf8?_eq_some_iff

end DeclaredParams.Text
