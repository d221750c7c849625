import PacketLog.Output.Sink
import PacketLog.Proofs.Output.Emission

namespace PacketLog

open Output

inductive SinkCall where
  | send (p : Packet)
  | flush
  | close

namespace SinkCall

/-- The packets sent before the sink is closed. -/
def sentOpen : List SinkCall → List Packet
  | [] => []
  | .send p :: calls => p :: sentOpen calls
  | .flush :: calls => sentOpen calls
  | .close :: _ => []

def sent : List SinkCall → List Packet
  | [] => []
  | .send p :: calls => p :: sent calls
  | .flush :: calls => sent calls
  | .close :: calls => sent calls

def sendAnswers {α : Type} : List SinkCall → List α → List α
  | .send _ :: calls, a :: answers => a :: sendAnswers calls answers
  | .flush :: calls, _ :: answers => sendAnswers calls answers
  | .close :: calls, _ :: answers => sendAnswers calls answers
  | _, _ => []

end SinkCall

namespace LedgerSink

open SinkCall

variable {ω : Type} [Outlet ω]

def call (s : LedgerSink ω) : SinkCall → Except DeliveryError Unit × LedgerSink ω
  | .send p => s.send p
  | .flush => s.flush
  | .close => s.close

/-- The answers to calls one after another, and the sink after them. -/
def run (s : LedgerSink ω) : List SinkCall → List (Except DeliveryError Unit) × LedgerSink ω
  | [] => ([], s)
  | c :: calls =>
    let (answer, s) := s.call c
    let (answers, s) := s.run calls
    (answer :: answers, s)

/-- The outputs with any bytes in them whose packets were accepted. -/
def delivered (outs : List Bytes) (answers : List (Except DeliveryError Unit)) : List Bytes :=
  ((outs.zip answers).filter fun (o, a) => !o.isEmpty && a.isOk).map Prod.fst

/-- The answer to a packet by the room that is left for its bytes. -/
def verdict (full : DeviceFault) (room : Nat) (o : Bytes) : Except DeliveryError Unit :=
  if o.length ≤ room then .ok () else .error (.write full)

def verdicts (full : DeviceFault) : Nat → List Bytes → List (Except DeliveryError Unit)
  | _, [] => []
  | room, o :: outs => verdict full room o :: verdicts full (room - o.length) outs

/-- What sending a packet makes of an open sink with some room left. -/
structure Sent (s : LedgerSink Device) (room : Nat) (p : Packet) : Prop where
  answer : (s.send p).1 = verdict s.outlet.whenFull room (s.format.emission p)
  format : (s.send p).2.format = (s.format.compile p).2
  closed : (s.send p).2.closed = false
  left : (s.send p).2.outlet.room = some (room - (s.format.emission p).length)
  whenFull : (s.send p).2.outlet.whenFull = s.outlet.whenFull
  held : (s.send p).2.outlet.held = s.outlet.held ++ (s.format.emission p).take room
  packets : (s.send p).2.stats.packets =
    s.stats.packets + (delivered [s.format.emission p] [(s.send p).1]).length
  bytes : (s.send p).2.stats.bytes =
    s.stats.bytes + (delivered [s.format.emission p] [(s.send p).1]).flatten.length
  skipped : (s.send p).2.stats.skipped =
    s.stats.skipped + [s.format.emission p].countP List.isEmpty

theorem send_of_empty {s : LedgerSink ω} {p : Packet} (hopen : s.closed = false)
    (he : s.format.emission p = []) :
    s.send p = (.ok (), { s with
      format := (s.format.compile p).2
      stats := { s.stats with skipped := s.stats.skipped + 1 } }) := by
  have hl : (s.format.compile p).1 = 0 := by rw [Format.compile_fst, he]; rfl
  simp only [send, hopen, hl, Bool.false_eq_true, ↓reduceIte]

theorem send_of_ne_nil {s : LedgerSink Device} {p : Packet} (hopen : s.closed = false)
    (hne : s.format.emission p ≠ []) :
    s.send p =
      if s.outlet.Fits (s.format.emission p) then
        (.ok (), { s with
          format := (s.format.compile p).2
          outlet := ((s.format.compile p).2.write s.outlet).2
          stats := { s.stats with
            packets := s.stats.packets + 1
            bytes := s.stats.bytes + (s.format.emission p).length } })
      else
        (.error (.write s.outlet.whenFull), { s with
          format := (s.format.compile p).2
          outlet := ((s.format.compile p).2.write s.outlet).2 }) := by
  have hl : (s.format.emission p).length ≠ 0 := mt List.length_eq_zero_iff.1 hne
  have hr := s.format.write_compile_fst s.outlet p
  generalize hw : (s.format.compile p).2.write s.outlet = w at hr ⊢
  obtain ⟨result, outlet⟩ := w
  subst hr
  split <;> next hf =>
    simp only [send, hopen, hw, Format.compile_fst, hl, hf, Bool.false_eq_true, ↓reduceIte]

theorem sent_of_open {s : LedgerSink Device} {room : Nat} (hopen : s.closed = false)
    (hroom : s.outlet.room = some room) (p : Packet) : s.Sent room p := by
  by_cases he : s.format.emission p = []
  · have hs := send_of_empty hopen he
    constructor <;> simp [hs, he, hopen, hroom, verdict, delivered]
  · have ht := s.format.took_write_compile s.outlet p
    have hheld := ht.held
    have hleft := ht.room
    rw [Device.take_fitting_of_room hroom] at hheld
    rw [hroom, Option.map_some] at hleft
    have hfit := Device.fits_iff_of_room hroom (s.format.emission p)
    have hs := send_of_ne_nil hopen he
    by_cases hf : (s.format.emission p).length ≤ room
    · rw [if_pos (hfit.2 hf)] at hs
      constructor <;> simp [hs, he, hf, hopen, hleft, hheld, ht.whenFull, verdict, delivered,
        Except.isOk, Except.toBool]
    · rw [if_neg (mt hfit.1 hf)] at hs
      constructor <;> simp [hs, he, hf, hopen, hleft, hheld, ht.whenFull, verdict, delivered,
        Except.isOk, Except.toBool]

theorem send_of_closed {s : LedgerSink ω} (h : s.closed = true) (p : Packet) :
    s.send p = (.error .closed, s) := by
  simp only [send, h, ↓reduceIte]

theorem flush_snd (s : LedgerSink Device) : s.flush.2 = s := by
  have hd (d : Device) : (Outlet.flush d).2 = d := by
    change d.flush.2 = d
    unfold Device.flush
    split <;> rfl
  have hs (outlet : Device) (r : Except DeviceFault Unit)
      (he : Outlet.flush s.outlet = (r, outlet)) : { s with outlet } = s := by
    have ho := hd s.outlet
    rw [he] at ho
    rw [show outlet = s.outlet from ho]
  unfold flush
  split <;> next he => exact hs _ _ he

theorem close_snd (s : LedgerSink Device) : s.close.2 = { s with closed := true } := by
  unfold close
  split
  next h => rw [← h]
  next => exact flush_snd _

theorem run_of_closed {s : LedgerSink Device} (h : s.closed = true) (calls : List SinkCall) :
    (s.run calls).2 = s ∧ sendAnswers calls (s.run calls).1 =
      List.replicate (sent calls).length (.error .closed) := by
  induction calls with
  | nil => exact ⟨rfl, rfl⟩
  | cons c calls ih =>
    cases c with
    | send p =>
      simp only [run, call, send_of_closed h]
      exact ⟨ih.1, congrArg (_ :: ·) ih.2⟩
    | flush =>
      simp only [run, call, flush_snd]
      exact ih
    | close =>
      have hs : s.close.2 = s := by rw [close_snd, ← h]
      simp only [run, call, hs]
      exact ih

theorem delivered_cons (o : Bytes) (outs : List Bytes) (a : Except DeliveryError Unit)
    (answers : List (Except DeliveryError Unit)) :
    delivered (o :: outs) (a :: answers) = delivered [o] [a] ++ delivered outs answers := by
  unfold delivered
  rw [← List.map_append, ← List.filter_append]
  rfl

/-- How the room for its bytes decides on every packet of an open sink, and what the sink makes of
it. -/
theorem run_of_open {s : LedgerSink Device} {room : Nat} (hopen : s.closed = false)
    (hroom : s.outlet.room = some room) (calls : List SinkCall) :
    let outs := s.format.emissions (sentOpen calls)
    let expected := verdicts s.outlet.whenFull room outs
    let after := (s.run calls).2
    after.outlet.held = s.outlet.held ++ outs.flatten.take room ∧
      sendAnswers calls (s.run calls).1 = expected ++ List.replicate
        ((sent calls).length - (sentOpen calls).length) (.error .closed) ∧
      after.stats.packets = s.stats.packets + (delivered outs expected).length ∧
      after.stats.bytes = s.stats.bytes + (delivered outs expected).flatten.length ∧
      after.stats.skipped = s.stats.skipped + outs.countP List.isEmpty := by
  induction calls generalizing s room with
  | nil => simp [run, sentOpen, sent, sendAnswers, Format.emissions, verdicts, delivered]
  | cons c calls ih =>
    cases c with
    | send p =>
      have hp := sent_of_open hopen hroom p
      obtain ⟨hheld, hans, hpackets, hbytes, hskipped⟩ := ih hp.closed hp.left
      rw [hp.format, hp.whenFull] at *
      simp only [run, call, sentOpen, sent, sendAnswers, Format.emissions, verdicts,
        List.flatten_cons]
      rw [delivered_cons]
      refine ⟨?_, ?_, ?_, ?_, ?_⟩
      · rw [hheld, hp.held, List.append_assoc, List.take_append]
      · rw [hans, hp.answer, List.length_cons, List.length_cons, Nat.add_sub_add_right]
        rfl
      · rw [hpackets, hp.packets, hp.answer, List.length_append, Nat.add_assoc]
      · rw [hbytes, hp.bytes, hp.answer, List.flatten_append, List.length_append, Nat.add_assoc]
      · rw [hskipped, hp.skipped, Nat.add_assoc, ← List.countP_append, List.singleton_append]
    | flush =>
      have hi := ih hopen hroom
      simp only [run, call, flush_snd]
      exact hi
    | close =>
      obtain ⟨hs, hans⟩ := run_of_closed (s := { s with closed := true }) rfl calls
      simp only [run, call, close_snd, hs, hans, sentOpen, sent, sendAnswers, Format.emissions,
        verdicts]
      simp [delivered]

theorem length_le_length_flatten_take {outs : List Bytes} {i : Nat} {o : Bytes}
    (h : outs[i]? = some o) : o.length ≤ (outs.take (i + 1)).flatten.length := by
  have ht : (outs.take (i + 1))[i]? = some o := by
    rw [List.getElem?_take_of_lt (Nat.lt_succ_self i), h]
  exact (List.sublist_flatten_of_mem (List.mem_of_getElem? ht)).length_le

/-- The verdict on a packet, by all the bytes that are to be written up to its end. -/
theorem getElem?_verdicts (full : DeviceFault) (room : Nat) (outs : List Bytes) (i : Nat) :
    (verdicts full room outs)[i]? = outs[i]?.map fun o =>
      if o = [] ∨ (outs.take (i + 1)).flatten.length ≤ room then .ok ()
      else .error (.write full) := by
  induction outs generalizing room i with
  | nil => rfl
  | cons o outs ih =>
    cases i with
    | zero =>
      have hc : o.length ≤ room ↔ o = [] ∨ o.length ≤ room := by
        rw [← List.length_eq_zero_iff]
        omega
      simp [verdicts, verdict, ← hc]
    | succ i =>
      rw [verdicts, List.getElem?_cons_succ, ih, List.getElem?_cons_succ]
      cases hi : outs[i]? with
      | none => rfl
      | some o' =>
        -- Behind an output for which there was no room, nothing fits but empty outputs.
        have hl := length_le_length_flatten_take hi
        have hc : (o' = [] ∨ (outs.take (i + 1)).flatten.length ≤ room - o.length) ↔
            (o' = [] ∨ ((o :: outs).take (i + 1 + 1)).flatten.length ≤ room) := by
          rw [List.take_succ_cons, List.flatten_cons, List.length_append,
            ← List.length_eq_zero_iff]
          omega
        simp only [Option.map_some, hc]

theorem verdicts_eq_mapIdx (full : DeviceFault) (room : Nat) (outs : List Bytes) :
    verdicts full room outs = outs.mapIdx fun i o =>
      if o = [] ∨ (outs.take (i + 1)).flatten.length ≤ room then .ok ()
      else .error (.write full) := by
  apply List.ext_getElem?
  intro i
  rw [getElem?_verdicts, List.getElem?_mapIdx]

theorem length_verdicts (full : DeviceFault) (room : Nat) (outs : List Bytes) :
    (verdicts full room outs).length = outs.length := by
  rw [verdicts_eq_mapIdx, List.length_mapIdx]

theorem delivered_append {outs : List Bytes} {answers : List (Except DeliveryError Unit)}
    (h : answers.length = outs.length) (more : List (Except DeliveryError Unit)) :
    delivered outs (answers ++ more) = delivered outs answers := by
  induction outs generalizing answers with
  | nil => rfl
  | cons o outs ih =>
    cases answers with
    | nil => cases h
    | cons a answers =>
      rw [List.cons_append, delivered_cons, ih (Nat.succ.inj h), ← delivered_cons]

/-- After any run of calls on a fresh sink before a device with room for so many bytes: the device
holds the first of all the bytes there were to write. A packet is accepted exactly if there are no
bytes to write for it or all bytes up to its end fit, and the counts are those of the accepted
packets. Once the sink is closed, packets are refused and leave no trace. -/
theorem run_accounts (f : Format) {d : Device} {limit : Nat} (hroom : d.room = some limit)
    (calls : List SinkCall) :
    let s : LedgerSink Device := { format := f, outlet := d }
    let outs := f.emissions (sentOpen calls)
    let answers := sendAnswers calls (s.run calls).1
    let after := (s.run calls).2
    after.outlet.held = d.held ++ outs.flatten.take limit ∧
      answers = (outs.mapIdx fun i o =>
        if o = [] ∨ (outs.take (i + 1)).flatten.length ≤ limit then .ok ()
        else .error (.write d.whenFull)) ++ List.replicate
          ((sent calls).length - (sentOpen calls).length) (.error .closed) ∧
      after.stats = {
        packets := (delivered outs answers).length
        bytes := (delivered outs answers).flatten.length
        skipped := outs.countP List.isEmpty } := by
  intro s outs answers after
  obtain ⟨hheld, hans, hpackets, hbytes, hskipped⟩ := run_of_open (s := s) rfl hroom calls
  have hd : delivered outs answers = delivered outs (verdicts d.whenFull limit outs) := by
    rw [show answers = _ from hans, delivered_append (length_verdicts _ _ _)]
  refine ⟨hheld, ?_, ?_⟩
  · rw [← verdicts_eq_mapIdx]
    exact hans
  · rw [hd]
    exact congr (congr (congrArg SinkStats.mk (hpackets.trans (Nat.zero_add _)))
      (hbytes.trans (Nat.zero_add _))) (hskipped.trans (Nat.zero_add _))

/-- The second frame has its head taken and its body cut off, and the third comes after the sink is
closed. -/
theorem run_accounts_cut_off :
    let d : Device := { room := some 20 }
    let c : Command := Command.blank ⟨fun _ => 0, 1, 1⟩ .clearLog
    let calls : List SinkCall := [
      .send (.command c), .flush, .send (.command { c with data := some [1, 2] }), .close,
      .send (.command c)]
    let s : LedgerSink Device := { format := .binary {}, outlet := d }
    d.room = some 20 ∧ (s.run calls).2.outlet.held.length = 20 ∧
      sendAnswers calls (s.run calls).1 =
        [.ok (), .error (.write .storageFull), .error .closed] ∧
      (s.run calls).2.stats = { packets := 1, bytes := 14, skipped := 0 } := by
  intro d c calls s
  have hroom : d.room = some 20 := rfl
  have hs : { format := .binary {}, outlet := d } = s := rfl
  obtain ⟨hheld, hans, hstats⟩ := run_accounts (.binary {}) hroom calls
  rw [hs] at hheld hans hstats
  have hanswers := hans.trans
    (show _ = [.ok (), .error (.write .storageFull), .error .closed] from rfl)
  refine ⟨hroom, ?_, hanswers, ?_⟩
  · rw [hheld]
    decide
  · rw [hstats, hanswers]
    decide

end LedgerSink

end PacketLog
