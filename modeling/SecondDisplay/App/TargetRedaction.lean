import SecondDisplay.App.Redaction
import SecondDisplay.Net.UsbMux

/-!
# Cable targets in reports (`app/UiModel.cpp`, `net/UsbMux.cpp`)

Reports are meant to hold no identifier of a device on the cable.  The program writes such a device
as `usb:` and its serial number, in its configuration and as the tag of every line of its log, but
`RedactDiagnosticsText` looks for `usbmux://`.  So a target stays in the report unless something
else that is replaced happens to stand in it or around it (`target_removed_iff`).
-/

namespace SecondDisplay.Redaction

open Search (OccursAt)

/-- **A cable target is removed** if and only if something is replaced in each of its occurrences:
a profile path, an address, or what follows a `usbmux://`. -/
theorem target_removed_iff (text userProfile udid : Bytes)
    (hspace : ∀ b ∈ udid, isSpace b = false) (hbracket : ∀ b ∈ udid, b ∉ ascii "[]<>") :
    ¬makeUsbMuxTarget udid <:+: redactDiagnosticsText text userProfile ↔
      ∀ pos, OccursAt (makeUsbMuxTarget udid) text pos →
        ∃ place, pos ≤ place ∧ place < pos + (makeUsbMuxTarget udid).length ∧
          Replaced userProfile text place := by
  have htarget : makeUsbMuxTarget udid = 0x75 :: (ascii "sb:" ++ udid) := rfl
  have hstarts : ∀ b ∈ ascii "usb:", isStop b = false ∧ b ≠ 0x3C := by decide +kernel
  have hudid : ∀ b ∈ udid, isStop b = false ∧ b ≠ 0x3C := by
    intro b hmem
    have hnot := hbracket b hmem
    refine ⟨?_, ?_⟩
    · rw [isStop, hspace b hmem, Bool.false_or, beq_eq_false_iff_ne]
      rintro rfl
      exact hnot (by decide)
    · rintro rfl
      exact hnot (by decide)
  have hall : ∀ b ∈ makeUsbMuxTarget udid, isStop b = false ∧ b ≠ 0x3C := by
    intro b hmem
    obtain hmem | hmem := List.mem_append.1 hmem
    · exact hstarts b hmem
    · exact hudid b hmem
  have hangle : 0x3C ∉ makeUsbMuxTarget udid := fun hmem => (hall _ hmem).2 rfl
  have hforeign : Blanks.Foreign IsFilling (makeUsbMuxTarget udid) :=
    forall_filling ⟨0x3C, _, rfl, hangle⟩ ⟨0x3C, _, rfl, hangle⟩ ⟨0x3C, _, rfl, hangle⟩
  have hstop : ∀ b ∈ makeUsbMuxTarget udid, isStop b = false := fun b hmem => (hall b hmem).1
  have hletter : ∀ text, IsFilling text → 0x75 ∉ text :=
    forall_filling (by decide) (by decide) (by decide)
  have hcontains : makeUsbMuxTarget udid <:+: redactDiagnosticsText text userProfile ↔
      (makeUsbMuxTarget udid).map some <:+:
        Blanks.blank (shown text) (Replaced userProfile text) := by
    rw [htarget] at hforeign hstop ⊢
    exact (redactDiagnosticsText_fills text userProfile).infix_iff hforeign hletter hstop
  rw [hcontains, Blanks.map_infix_blank, not_exists]
  refine forall_congr' fun pos => ?_
  rw [not_and, not_forall]
  refine imp_congr_right fun _ => ?_
  constructor
  · rintro ⟨later, hlater⟩
    rw [Classical.not_imp, not_not] at hlater
    exact ⟨pos + later, Nat.le_add_right .., Nat.add_lt_add_left hlater.1 _, hlater.2⟩
  · rintro ⟨place, hle, hlt, hreplaced⟩
    obtain ⟨later, rfl⟩ := Nat.exists_eq_add_of_le hle
    exact ⟨later, fun hnot => hnot (Nat.lt_of_add_lt_add_left hlt) hreplaced⟩

/-- A serial number that looks like an address. -/
theorem target_removed_iff_address :
    ¬makeUsbMuxTarget (ascii "10.0.0.1") <:+:
      redactDiagnosticsText (ascii "[usb:10.0.0.1]") [] := by
  refine (target_removed_iff (ascii "[usb:10.0.0.1]") [] (ascii "10.0.0.1") (by decide +kernel)
    (by decide +kernel)).2 fun pos hoccurs => ?_
  have honly : ∀ pos < 14, OccursAt (makeUsbMuxTarget (ascii "10.0.0.1")) (ascii "[usb:10.0.0.1]")
      pos → pos = 1 := by decide
  obtain rfl := honly pos (hoccurs.lt_length (by decide)) hoccurs
  have hshown : withoutProfiles [] (ascii "[usb:10.0.0.1]") = shown (ascii "[usb:10.0.0.1]") :=
    Blanks.blank_none fun place _ ⟨pos, _, hle, hlt⟩ => Nat.not_lt_of_le hle hlt
  refine ⟨5, by decide, by decide, .inr (.inl ⟨shown (ascii "[usb:"), ascii "10.0.0.1",
    shown (ascii "]"), ⟨hshown, by decide +kernel, ?_, ?_⟩, by decide +kernel, by decide,
    by decide⟩)⟩
  · rw [show (shown (ascii "[usb:")).reverse = some 0x3A :: shown (ascii "bsu[") from rfl,
      Blanks.begins_map_cons]
    decide
  · rw [show shown (ascii "]") = some 0x5D :: [] from rfl, Blanks.begins_map_cons]
    decide

/-- A line of the log. -/
def logLine : Bytes := ascii "12:00:00.000 [usb:00008030-001A2B3C] connecting to port 9000 ...\n"

theorem target_removed_fails_logLine : ¬∀ text userProfile udid : Bytes, udid ≠ [] →
    (∀ b ∈ udid, isSpace b = false) → (∀ b ∈ udid, b ∉ ascii "[]<>") →
      makeUsbMuxTarget udid <:+: text →
        ¬makeUsbMuxTarget udid <:+: redactDiagnosticsText text userProfile := by
  intro h
  exact h logLine (ascii "C:\\Users\\Tester") (ascii "00008030-001A2B3C") (by decide)
    (by decide +kernel) (by decide +kernel) (by decide +kernel) (by decide +kernel)

end SecondDisplay.Redaction
