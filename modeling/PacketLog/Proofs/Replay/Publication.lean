import PacketLog.Proofs.Event.Route
import PacketLog.Proofs.Output.Tally
import PacketLog.Proofs.Packet.Labels
import PacketLog.Proofs.Replay.Reading

namespace PacketLog

open Output

theorem Event.step?_eq_none_iff {e : Event} : e.operation.step? = none ↔ e.IsPlain := by
  rw [isPlain_iff]
  cases e.operation <;> simp [Operation.step?, Operation.kind]

namespace FormatConfig

theorem renders_of_text {c : FormatConfig} (h : c.kind = .text) :
    c.format.renders = fun p => p.entry?.isSome := by
  rw [format, h]
  rfl

theorem renders_of_binary {c : FormatConfig} (h : c.kind = .binary) :
    c.format.renders = fun _ => true := by
  rw [format, h]
  rfl

end FormatConfig

namespace PacketSession

/-- The packets that a session sends for an event. -/
def packetsFor {κ : Type} (s : PacketSession κ) (e : Event) : List Packet :=
  if s.isOn e.severity.level then
    .entry (s.operationEntry e.operation e.title) ::
      (e.operation.step?.map fun step => .flow (s.flow e.operation.level e.title step)).toList
  else []

theorem countP_packetsFor {κ : Type} (s : PacketSession κ) (e : Event) :
    (s.packetsFor e).countP (fun p => p.entry?.isSome) =
      [e].countP (fun e => s.isOn e.severity.level) ∧
    (s.packetsFor e).countP (fun p => !p.entry?.isSome) =
      [e].countP fun e => !decide e.IsPlain && s.isOn e.severity.level := by
  rw [List.countP_singleton, List.countP_singleton, packetsFor]
  cases s.isOn e.severity.level with
  | false => exact ⟨rfl, by rw [Bool.and_false]; rfl⟩
  | true =>
    have hplain : decide e.IsPlain = e.operation.step?.isNone := by
      rw [Bool.eq_iff_iff, decide_eq_true_iff, Option.isNone_iff_eq_none, Event.step?_eq_none_iff]
    rw [hplain, Bool.and_true]
    cases e.operation.step? with
    | none => exact ⟨rfl, rfl⟩
    | some step => exact ⟨rfl, rfl⟩

variable {s : PacketSession (LedgerSink Device)}

theorem attempt_absorbs (hopen : s.sink.closed = false) (hroom : s.sink.outlet.room = none)
    (e : Event) :
    ∃ sink, attempt .standard s e = (.ok (.ok ()), { s with sink }) ∧
      s.sink.Absorbs (s.packetsFor e) sink := by
  rw [packetsFor]
  cases hon : s.isOn e.severity.level with
  | false =>
    refine ⟨s.sink, ?_, .refl hopen hroom⟩
    simp only [attempt, Session.isOn, hon]
  | true =>
    obtain ⟨sink, hsend, habsorbs⟩ := s.sendEach_absorbs hopen hroom
      (.entry (s.operationEntry e.operation e.title) ::
        (e.operation.step?.map fun step => .flow (s.flow e.operation.level e.title step)).toList)
    refine ⟨sink, ?_, habsorbs⟩
    simp only [attempt, dispatch_route, Session.isOn, hon, TitleStyle.standard, Session.log,
      log_of_isOn (isOn_operation hon), hsend]

theorem sendHeader_absorbs (hopen : s.sink.closed = false) (hroom : s.sink.outlet.room = none) :
    ∃ sink header, s.sendHeader = (.ok (), { s with sink }) ∧
      s.sink.Absorbs [.header header] sink := by
  obtain ⟨labels, hlabels, -⟩ := Labels.labels_of_session s
  obtain ⟨sink, hsend, habsorbs⟩ := LedgerSink.send_absorbs hopen hroom
    (.header { Header.blank s.around with labels })
  refine ⟨sink, _, ?_, habsorbs⟩
  simp only [sendHeader, hlabels, send, PacketSink.send, hsend]

end PacketSession

namespace Replay

/-- Whether a replay has come from a session by sending packets, with nothing to report. -/
structure Sent (s : PacketSession (LedgerSink Device)) (ps : List Packet) (r : Replay Device) :
    Prop where
  titles : r.handler.titles = .standard
  throttle : r.handler.hook.throttle = {}
  session : ∃ around sink, r.handler.session = s.moved around sink ∧ s.sink.Absorbs ps sink

/-- The packets that a session sends for an event in its surroundings. -/
def packetsAt (s : PacketSession (LedgerSink Device)) (o : Occurrence) : List Packet :=
  (s.moved o.around s.sink).packetsFor o.event

variable {s : PacketSession (LedgerSink Device)} {ps : List Packet} {r : Replay Device}

theorem Sent.lineAt {os : List Occurrence} (hr : Sent s (ps ++ os.flatMap (packetsAt s)) r)
    (read? : Bytes → Option Event) (reading : Moment × Bytes) :
    Sent s (ps ++ (os ++ (occurrence? read? reading).toList).flatMap (packetsAt s))
      (r.lineAt read? reading) := by
  obtain ⟨m, line⟩ := reading
  obtain ⟨htitles, hthrottle, around, sink, hsession, habsorbs⟩ := hr
  have hmoved : (r.atTime m.around m.now).handler.session = s.moved m.around sink := by
    rw [atTime, hsession]
    rfl
  have hhandler := r.handler_lineAt read? m line
  rw [occurrence?]
  generalize (text? line).bind read? = found? at hhandler ⊢
  cases found? with
  | none =>
    rw [Option.map_none, Option.toList_none, List.append_nil]
    refine ⟨?_, ?_, m.around, sink, ?_, habsorbs⟩
    · rw [hhandler]
      exact htitles
    · rw [hhandler]
      exact hthrottle
    · rw [hhandler]
      exact hmoved
  | some e =>
    obtain ⟨sink', hattempt, habsorbs'⟩ := PacketSession.attempt_absorbs
      (s := s.moved m.around sink) habsorbs.closed habsorbs.room e
    have hattempt' : attempt (r.atTime m.around m.now).handler.titles
        (r.atTime m.around m.now).handler.session e =
          (.ok (.ok ()), s.moved m.around sink') := by
      rw [hmoved, show (r.atTime m.around m.now).handler.titles = .standard from htitles,
        hattempt]
      rfl
    have hpublish : (r.atTime m.around m.now).handler.publish e =
        { (r.atTime m.around m.now).handler with session := s.moved m.around sink' } := by
      rw [Handler.publish_eq, hattempt']
      rfl
    simp only [publish, hpublish] at hhandler
    rw [Option.map_some, Option.toList_some, List.flatMap_append, List.flatMap_singleton,
      ← List.append_assoc]
    refine ⟨?_, ?_, m.around, sink', ?_, habsorbs.trans habsorbs'⟩
    · rw [hhandler]
      exact htitles
    · rw [hhandler]
      exact hthrottle
    · rw [hhandler]

theorem countP_flatMap_packetsAt (s : PacketSession (LedgerSink Device)) (os : List Occurrence) :
    (os.flatMap (packetsAt s)).countP (fun p => p.entry?.isSome) =
      (os.filter fun o => s.isOn o.event.severity.level).length ∧
    (os.flatMap (packetsAt s)).countP (fun p => !p.entry?.isSome) =
      (os.filter fun o => s.isOn o.event.severity.level).countP
        fun o => !decide o.event.IsPlain := by
  rw [← List.countP_eq_length_filter, List.countP_filter]
  induction os with
  | nil => exact ⟨rfl, rfl⟩
  | cons o os ih =>
    obtain ⟨hentries, hflows⟩ := (s.moved o.around s.sink).countP_packetsFor o.event
    have hentries' : (packetsAt s o).countP (fun p => p.entry?.isSome) =
        [o].countP fun o => s.isOn o.event.severity.level := hentries
    have hflows' : (packetsAt s o).countP (fun p => !p.entry?.isSome) =
        [o].countP fun o => !decide o.event.IsPlain && s.isOn o.event.severity.level := hflows
    rw [List.flatMap_cons, List.countP_append, List.countP_append, ih.1, ih.2, hentries', hflows',
      ← List.countP_append, ← List.countP_append]
    exact ⟨rfl, rfl⟩

theorem start_sent (c : Config) (header : Bool) (around : Ambient) (sink : LedgerSink Device)
    (hopen : sink.closed = false) (hroom : sink.outlet.room = none) :
    (start c header around sink).1 = .ok () ∧
    ∃ ps, Sent (c.session.session around sink) ps (start c header around sink).2 ∧
      ps.countP (fun p => p.entry?.isSome) = 0 ∧
      ps.countP (fun p => !p.entry?.isSome) = header.toNat := by
  cases header with
  | false => exact ⟨rfl, [], ⟨rfl, rfl, around, sink, rfl, .refl hopen hroom⟩, rfl, rfl⟩
  | true =>
    obtain ⟨sink', h, hsend, habsorbs⟩ :=
      (c.session.session around sink).sendHeader_absorbs hopen hroom
    simp only [start, hsend, ↓reduceIte]
    exact ⟨trivial, [.header h], ⟨rfl, rfl, around, sink', rfl, habsorbs⟩, rfl, rfl⟩

theorem Sent.stats (hr : Sent s ps r) (hfresh : s.sink.stats = {}) :
    r.sink.stats.packets = ps.countP s.sink.format.renders ∧
      r.sink.stats.skipped = ps.countP fun p => !s.sink.format.renders p := by
  obtain ⟨-, -, around, sink, hsession, habsorbs⟩ := hr
  rw [Replay.sink, hsession, PacketSession.moved, habsorbs.packets, habsorbs.skipped, hfresh]
  exact ⟨Nat.zero_add _, Nat.zero_add _⟩

theorem Sent.finish (hr : Sent s ps r) (hflushed : s.sink.outlet.whenFlushed = none) :
    r.finish.1 = .ok () ∧ r.finish.2.sink = { r.sink with closed := true } := by
  obtain ⟨-, -, around, sink, hsession, habsorbs⟩ := hr
  have hsink : r.sink = sink := congrArg PacketSession.sink hsession
  have hclose : r.sink.close = (.ok (), { r.sink with closed := true }) := by
    simp only [hsink, LedgerSink.close, LedgerSink.flush, Outlet.flush, Device.flush,
      habsorbs.closed, habsorbs.whenFlushed, hflushed, Bool.false_eq_true, ↓reduceIte]
  rw [Replay.finish, hclose]
  exact ⟨rfl, rfl⟩

/-- What the lines of an input say. -/
def texts (bs : Bytes) : List Bytes := (pieces bs).filterMap text?

/-- The events that the lines of an input hold, each at its moment. -/
def occurrences (read? : Bytes → Option Event) (moments : Nat → Moment) (bs : Bytes) :
    List Occurrence :=
  (readings moments (pieces bs)).filterMap (occurrence? read?)

section

variable {ω : Type} [Outlet ω] (read? : Bytes → Option Event)

theorem filterMap_bind_text? (ls : List Bytes) :
    (ls.filterMap fun line => (text? line).bind read?) = (ls.filterMap text?).filterMap read? :=
  List.filterMap_filterMap.symm

theorem map_event_occurrences (moments : Nat → Moment) (bs : Bytes) :
    (occurrences read? moments bs).map Occurrence.event = (texts bs).filterMap read? := by
  have hevent (x : Moment × Bytes) :
      (occurrence? read? x).map Occurrence.event = (text? x.2).bind read? := by
    rw [occurrence?, Option.map_map]
    exact Option.map_id'
  calc (occurrences read? moments bs).map Occurrence.event
      = (readings moments (pieces bs)).filterMap fun x => (text? x.2).bind read? := by
        rw [occurrences, List.map_filterMap]
        simp only [hevent]
    _ = ((readings moments (pieces bs)).map Prod.snd).filterMap
          fun line => (text? line).bind read? := by
        rw [List.filterMap_map]
        rfl
    _ = (texts bs).filterMap read? := by
        rw [map_snd_readings, filterMap_bind_text?, texts]

theorem occurrences_const (m : Moment) (bs : Bytes) :
    occurrences read? (fun _ => m) bs =
      ((texts bs).filterMap read?).map fun e => ⟨m.around, e⟩ := by
  rw [occurrences, texts, readings_const, List.filterMap_map, ← filterMap_bind_text?,
    List.map_filterMap]
  rfl

theorem length_texts (moments : Nat → Moment) (bs : Bytes) :
    (texts bs).length = (occurrences read? moments bs).length +
      (readings moments (pieces bs)).countP (isRejected read?) := by
  rw [occurrences, texts]
  induction pieces bs generalizing moments with
  | nil => rfl
  | cons line ls ih =>
    have hi := ih fun i => moments (i + 1)
    rw [readings_cons, List.filterMap_cons, List.filterMap_cons, List.countP_cons, occurrence?,
      isRejected]
    cases text? line with
    | none => exact hi
    | some text =>
      rw [Option.bind_some, Option.any_some, List.length_cons, hi]
      cases read? text with
      | none => exact Nat.add_assoc _ _ 1
      | some e => exact Nat.add_right_comm _ _ 1

theorem inputAt_counts (r : Replay ω) (moments : Nat → Moment) (bs : Bytes) :
    (r.inputAt read? moments bs).events = r.events + (occurrences read? moments bs).length ∧
    (r.inputAt read? moments bs).events + (r.inputAt read? moments bs).rejected =
      r.events + r.rejected + (texts bs).length := by
  obtain ⟨hevents, hrejected⟩ := r.linesAt_counts read? (readings moments (pieces bs))
  rw [inputAt, lines_eq_pieces, hrejected, length_texts read? moments, occurrences, hevents]
  exact ⟨rfl, by omega⟩

/-- An input is the publication of the events that it holds. -/
theorem inputAt_sink (r : Replay ω) (moments : Nat → Moment) (bs : Bytes) :
    (r.inputAt read? moments bs).sink =
      (r.handler.publishEach (occurrences read? moments bs)).session.sink := by
  have hstart : r.Follows r.handler := ⟨rfl, r.handler.session.around, rfl⟩
  obtain ⟨-, around, hsession⟩ := hstart.linesAt read? (readings moments (pieces bs))
  rw [inputAt, lines_eq_pieces, sink, hsession]
  rfl

theorem input_sink (r : Replay ω) (bs : Bytes) :
    (r.input read? bs).sink =
      (r.handler.publishAll ((texts bs).filterMap read?)).session.sink := by
  rw [input_eq_inputAt, inputAt_sink, occurrences_const, ← Handler.publishEach_around]
  rfl

theorem inputAt_insert (r : Replay ω) (moments : Nat → Moment) (m : Moment)
    {bs bs' line : Bytes} {xs ys : List Bytes} (hold : pieces bs = xs ++ ys)
    (hnew : pieces bs' = xs ++ line :: ys) (hline : (text? line).bind read? = none) :
    (r.inputAt read? (insertMoment moments m xs.length) bs').sink =
      (r.inputAt read? moments bs).sink ∧
    (r.inputAt read? (insertMoment moments m xs.length) bs').events =
      (r.inputAt read? moments bs).events ∧
    (r.inputAt read? (insertMoment moments m xs.length) bs').rejected =
      (r.inputAt read? moments bs).rejected + (text? line).toList.length := by
  have hoccurrences : occurrences read? (insertMoment moments m xs.length) bs' =
      occurrences read? moments bs := by
    obtain ⟨before, after, hbefore, hafter⟩ := readings_insert moments m xs line ys
    have hnone : occurrence? read? (m, line) = none := by rw [occurrence?, hline]; rfl
    rw [occurrences, occurrences, hold, hnew, hbefore, hafter, List.filterMap_append,
      List.filterMap_append, List.filterMap_cons_none hnone]
  have htexts : (texts bs').length = (texts bs).length + (text? line).toList.length := by
    rw [texts, texts, hold, hnew, List.filterMap_append, List.filterMap_append,
      List.filterMap_cons, List.length_append, List.length_append, Nat.add_assoc]
    cases text? line <;> rfl
  obtain ⟨hevents, hcounts⟩ := r.inputAt_counts read? moments bs
  obtain ⟨hevents', hcounts'⟩ :=
    r.inputAt_counts read? (insertMoment moments m xs.length) bs'
  rw [hoccurrences] at hevents'
  refine ⟨?_, hevents'.trans hevents.symm, by omega⟩
  rw [inputAt_sink, inputAt_sink, hoccurrences]

theorem inputAt_withReturns (r : Replay ω) (moments : Nat → Moment) {bs : Bytes}
    (h : ∀ l ∈ pieces bs, l.getLast? ≠ some 0x0D) :
    r.inputAt read? moments (withReturns bs) = r.inputAt read? moments bs := by
  rw [inputAt, inputAt, lines_eq_pieces, lines_eq_pieces]
  exact r.linesAt_congr read? moments (map_dropReturn_withReturns h)

end

theorem Sent.inputAt (hr : Sent s ps r) (read? : Bytes → Option Event) (moments : Nat → Moment)
    (bs : Bytes) :
    Sent s (ps ++ (occurrences read? moments bs).flatMap (packetsAt s))
      (r.inputAt read? moments bs) := by
  have hstart : Sent s (ps ++ ([] : List Occurrence).flatMap (packetsAt s)) r := by
    rw [List.flatMap_nil, List.append_nil]
    exact hr
  rw [Replay.inputAt, lines_eq_pieces]
  exact linesAt_of_step (P := fun os r => Sent s (ps ++ os.flatMap (packetsAt s)) r) read?
    (fun _ _ reading hr => hr.lineAt read? reading) hstart _

/-- A replay into a device without limit writes what publishing the events of its input writes, and
counts every line and every packet as what it is. -/
theorem inputAt_publishes (c : Config) (header : Bool) (around : Ambient)
    (read? : Bytes → Option Event) (moments : Nat → Moment) (bs : Bytes) :
    let session := c.session.session around
      ({ format := c.format.format, outlet := {} } : LedgerSink Device)
    let h : Handler (PacketSession (LedgerSink Device)) DiagnosticHook :=
      { session := if header then session.sendHeader.2 else session, hook := {} }
    let opened := start c header around session.sink
    let after := opened.2.inputAt read? moments bs
    let os := occurrences read? moments bs
    let shown := os.filter fun o => session.isOn o.event.severity.level
    let flows := shown.countP fun o => !decide o.event.IsPlain
    opened.1 = .ok () ∧
    os.map Occurrence.event = (texts bs).filterMap read? ∧
    after.events = os.length ∧
    after.events + after.rejected = (texts bs).length ∧
    after.sink = (h.publishEach os).session.sink ∧
    (∀ m bs' xs line ys, pieces bs = xs ++ ys → pieces bs' = xs ++ line :: ys →
      (text? line).bind read? = none →
      let after' := opened.2.inputAt read? (insertMoment moments m xs.length) bs'
      after'.sink = after.sink ∧ after'.events = after.events ∧
        after'.rejected = after.rejected + (text? line).toList.length) ∧
    ((∀ l ∈ pieces bs, l.getLast? ≠ some 0x0D) →
      opened.2.inputAt read? moments (withReturns bs) = after) ∧
    (c.format.kind = .text → after.sink.stats.packets = shown.length ∧
      after.sink.stats.skipped = flows + header.toNat) ∧
    (c.format.kind = .binary → after.sink.stats.packets = shown.length + flows + header.toNat ∧
      after.sink.stats.skipped = 0) ∧
    after.sink.stats.bytes = after.sink.outlet.held.length ∧
    after.handler.hook.throttle = {} ∧
    after.finish.1 = .ok () ∧ after.finish.2.sink = { after.sink with closed := true } ∧
    opened.2.input read? bs = opened.2.inputAt read? (fun _ => opened.2.moment) bs ∧
    (opened.2.input read? bs).sink =
      (h.publishAll ((texts bs).filterMap read?)).session.sink := by
  intro session h opened after os shown flows
  have hhandler : opened.2.handler = h := by cases header <;> rfl
  have hevents : opened.2.events = 0 := rfl
  have hrejected : opened.2.rejected = 0 := rfl
  obtain ⟨hopened, ps, hsent, hentries, hothers⟩ :=
    start_sent c header around session.sink rfl rfl
  have hafter : Sent session (ps ++ os.flatMap (packetsAt session)) after :=
    hsent.inputAt read? moments bs
  obtain ⟨hcount, hcounts⟩ := opened.2.inputAt_counts read? moments bs
  obtain ⟨hshown, hflows⟩ := countP_flatMap_packetsAt session os
  have hcountEntries : (ps ++ os.flatMap (packetsAt session)).countP
      (fun p => p.entry?.isSome) = shown.length := by
    rw [List.countP_append, hentries, Nat.zero_add, hshown]
  have hcountOthers : (ps ++ os.flatMap (packetsAt session)).countP
      (fun p => !p.entry?.isSome) = flows + header.toNat := by
    rw [List.countP_append, hflows, hothers, Nat.add_comm]
  have hlength : (ps ++ os.flatMap (packetsAt session)).length =
      shown.length + flows + header.toNat := by
    rw [Nat.add_assoc, ← hcountEntries, ← hcountOthers,
      List.length_eq_countP_add_countP fun p : Packet => p.entry?.isSome]
    simp only [Bool.not_eq_true, Bool.decide_eq_false]
  obtain ⟨hpackets, hskipped⟩ := hafter.stats rfl
  obtain ⟨hfinished, hclosed⟩ := hafter.finish rfl
  refine ⟨hopened, map_event_occurrences read? moments bs, ?_, ?_, ?_, ?_,
    opened.2.inputAt_withReturns read? moments, ?_, ?_, ?_, hafter.throttle, hfinished, hclosed,
    opened.2.input_eq_inputAt read? bs, ?_⟩
  · rw [hcount, hevents, Nat.zero_add]
  · rw [hcounts, hevents, hrejected, Nat.zero_add]
  · rw [← hhandler]
    exact opened.2.inputAt_sink read? moments bs
  · intro m bs' xs line ys hold hnew hline
    exact opened.2.inputAt_insert read? moments m hold hnew hline
  · intro hkind
    have hrenders : session.sink.format.renders = fun p => p.entry?.isSome :=
      FormatConfig.renders_of_text hkind
    rw [hpackets, hskipped, hrenders]
    exact ⟨hcountEntries, hcountOthers⟩
  · intro hkind
    have hrenders : session.sink.format.renders = fun _ => true :=
      FormatConfig.renders_of_binary hkind
    rw [hpackets, hskipped, hrenders, List.countP_true]
    exact ⟨hlength, congrFun List.countP_false _⟩
  · obtain ⟨around', sink, hsession, habsorbs⟩ := hafter.session
    rw [Replay.sink, hsession]
    exact habsorbs.bytes.trans (Nat.zero_add sink.outlet.held.length)
  · rw [← hhandler]
    exact opened.2.input_sink read? bs

end Replay

end PacketLog
