import PacketLog.Proofs.Output.Ledger
import PacketLog.Proofs.Pattern.Renderer

namespace PacketLog

open Output
open Pattern (Renderer)

namespace LedgerSink

/-- Whether a sink writes lines without limit, by the renderer in force and what its device holds. -/
structure WritesLines (s : LedgerSink Device) (r : Renderer) (held : Bytes) : Prop where
  closed : s.closed = false
  room : s.outlet.room = none
  format : ∃ line, s.format = .text ⟨r, line⟩
  held : s.outlet.held = held

namespace WritesLines

variable {s : LedgerSink Device} {r : Renderer} {held : Bytes}

theorem send_entry (h : s.WritesLines r held) (e : Entry) :
    ∃ s', s.send (.entry e) = (.ok (), s') ∧ s'.WritesLines (r.render e).2
      (held ++ lineBytes (r.render e).1) := by
  obtain ⟨line, hf⟩ := h.format
  have hem : s.format.emission (.entry e) = lineBytes (r.render e).1 := by
    rw [hf, Format.emission_text_entry]
  have hne : s.format.emission (.entry e) ≠ [] := by
    rw [hem]
    exact lineBytes_ne_nil _
  have hfits := Device.fits_of_room_none h.room (s.format.emission (.entry e))
  have htook := s.format.took_write_compile s.outlet (.entry e)
  refine ⟨_, (send_of_ne_nil h.closed hne).trans (if_pos hfits), h.closed, ?_, ?_, ?_⟩
  · rw [htook.room, h.room]
    rfl
  · rw [hf]
    exact ⟨_, rfl⟩
  · rw [htook.held, Device.take_fitting_of_fits hfits, hem, h.held]

theorem send_other (h : s.WritesLines r held) {p : Packet} (hp : p.entry? = none) :
    ∃ s', s.send p = (.ok (), s') ∧ s'.WritesLines r held := by
  obtain ⟨line, hf⟩ := h.format
  have hem : s.format.emission p = [] := by
    rw [hf, Format.emission_text_of_entry?_eq_none _ hp]
  refine ⟨_, send_of_empty h.closed hem, h.closed, h.room, ?_, h.held⟩
  refine ⟨none, ?_⟩
  simp only [hf, Format.compile_text, TextFormat.compile, hp]

end WritesLines

end LedgerSink

end PacketLog
