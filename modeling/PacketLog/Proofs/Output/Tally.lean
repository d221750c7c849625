import PacketLog.Proofs.Output.Ledger
import PacketLog.Session.Packets

namespace PacketLog

open Output

namespace Output.Format

def renders : Format → Packet → Bool
  | .text _, p => p.entry?.isSome
  | .binary _, _ => true

theorem renders_compile (f : Format) (p : Packet) : (f.compile p).2.renders = f.renders := by
  cases f <;> rfl

theorem emission_eq_nil_iff {f : Format} {p : Packet} :
    f.emission p = [] ↔ f.renders p = false := by
  cases f with
  | text f =>
    cases p with
    | entry e =>
      rw [emission_text_entry]
      exact iff_of_false (lineBytes_ne_nil _) nofun
    | _ => exact iff_of_true (emission_text_of_entry?_eq_none f rfl) rfl
  | binary f =>
    rw [emission_binary]
    exact iff_of_false (List.cons_ne_nil _ _) nofun

end Output.Format

namespace LedgerSink

/-- What an open sink before a device without limit makes of packets that it takes. -/
structure Absorbs (s : LedgerSink Device) (ps : List Packet) (after : LedgerSink Device) :
    Prop where
  closed : after.closed = false
  room : after.outlet.room = none
  whenFlushed : after.outlet.whenFlushed = s.outlet.whenFlushed
  renders : after.format.renders = s.format.renders
  packets : after.stats.packets = s.stats.packets + ps.countP s.format.renders
  skipped : after.stats.skipped = s.stats.skipped + ps.countP fun p => !s.format.renders p
  bytes : after.stats.bytes + s.outlet.held.length = s.stats.bytes + after.outlet.held.length

variable {s after : LedgerSink Device}

theorem Absorbs.refl (hopen : s.closed = false) (hroom : s.outlet.room = none) :
    s.Absorbs [] s :=
  ⟨hopen, hroom, rfl, rfl, rfl, rfl, rfl⟩

theorem Absorbs.trans {m : LedgerSink Device} {ps qs : List Packet} (h₁ : s.Absorbs ps m)
    (h₂ : m.Absorbs qs after) : s.Absorbs (ps ++ qs) after where
  closed := h₂.closed
  room := h₂.room
  whenFlushed := h₂.whenFlushed.trans h₁.whenFlushed
  renders := h₂.renders.trans h₁.renders
  packets := by rw [h₂.packets, h₁.packets, h₁.renders, List.countP_append, Nat.add_assoc]
  skipped := by rw [h₂.skipped, h₁.skipped, h₁.renders, List.countP_append, Nat.add_assoc]
  bytes := by
    have hb₁ := h₁.bytes
    have hb₂ := h₂.bytes
    omega

theorem send_absorbs (hopen : s.closed = false) (hroom : s.outlet.room = none) (p : Packet) :
    ∃ after, s.send p = (.ok (), after) ∧ s.Absorbs [p] after := by
  have hrenders := s.format.renders_compile p
  by_cases he : s.format.emission p = []
  · have hp := Format.emission_eq_nil_iff.1 he
    refine ⟨_, send_of_empty hopen he, hopen, hroom, rfl, hrenders, ?_, ?_, rfl⟩
    · rw [List.countP_singleton, hp]
      rfl
    · rw [List.countP_singleton, hp]
      rfl
  · have hp : s.format.renders p = true := Bool.of_not_eq_false (mt Format.emission_eq_nil_iff.2 he)
    have hfits := Device.fits_of_room_none hroom (s.format.emission p)
    have htook := s.format.took_write_compile s.outlet p
    refine ⟨_, (send_of_ne_nil hopen he).trans (if_pos hfits), hopen, ?_, htook.whenFlushed, hrenders,
      ?_, ?_, ?_⟩
    · rw [htook.room, hroom]
      rfl
    · rw [List.countP_singleton, hp]
      rfl
    · rw [List.countP_singleton, hp]
      rfl
    · rw [htook.held, Device.take_fitting_of_fits hfits, List.length_append]
      dsimp only
      omega

end LedgerSink

namespace PacketSession

variable {s : PacketSession (LedgerSink Device)}

theorem sendEach_absorbs (hopen : s.sink.closed = false) (hroom : s.sink.outlet.room = none)
    (ps : List Packet) :
    ∃ sink, s.sendEach ps = (.ok (), { s with sink }) ∧ s.sink.Absorbs ps sink := by
  induction ps generalizing s with
  | nil => exact ⟨s.sink, rfl, .refl hopen hroom⟩
  | cons p ps ih =>
    obtain ⟨sink, hsend, habsorbs⟩ := LedgerSink.send_absorbs hopen hroom p
    obtain ⟨sink', hrest, habsorbs'⟩ :=
      ih (s := { s with sink }) habsorbs.closed habsorbs.room
    have hs : s.send p = (.ok (), { s with sink }) := by
      simp only [send, PacketSink.send, hsend]
    refine ⟨sink', ?_, habsorbs.trans habsorbs'⟩
    rw [sendEach, hs]
    exact hrest

end PacketSession

end PacketLog
