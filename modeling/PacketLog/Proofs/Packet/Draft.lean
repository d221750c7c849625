import Mathlib.Data.List.Induction
import PacketLog.Packet.Draft
import PacketLog.Proofs.List.Last

namespace PacketLog

namespace EntryCall

def kind? : EntryCall → Option EntryKind
  | .kind k => some k
  | _ => none

def viewer? : EntryCall → Option Viewer
  | .viewer v => some v
  | _ => none

def level? : EntryCall → Option Level
  | .level l => some l
  | _ => none

def time? : EntryCall → Option Int64
  | .time t => some t
  | _ => none

/-- Whether the clock is to be read or a time is given, if the call is about that. -/
def readsClock? : EntryCall → Option Bool
  | .timeNow => some true
  | .time _ => some false
  | _ => none

def resolution? : EntryCall → Option Resolution
  | .resolution r => some r
  | _ => none

def title? : EntryCall → Option String
  | .title s => some s
  | _ => none

def session? : EntryCall → Option String
  | .session s => some s
  | _ => none

def app? : EntryCall → Option String
  | .app s => some s
  | _ => none

def host? : EntryCall → Option String
  | .host s => some s
  | _ => none

def color? : EntryCall → Option Color
  | .color c => some c
  | _ => none

def data? : EntryCall → Option Bytes
  | .data bs => some bs
  | _ => none

end EntryCall

namespace EntryDraft

open EntryCall

theorem call_eq (d : EntryDraft) (c : EntryCall) :
    d.call c = {
      kind := c.kind?.or d.kind
      viewer := c.viewer?.or d.viewer
      level := c.level?.getD d.level
      time := c.time?.getD d.time
      resolution := c.resolution?.getD d.resolution
      atBuild := c.readsClock?.getD d.atBuild
      title := c.title?.or d.title
      session := c.session?.or d.session
      app := c.app?.or d.app
      host := c.host?.or d.host
      color := c.color?.or d.color
      data := c.data?.or d.data } := by
  cases c <;> rfl

theorem ofCalls_eq (calls : List EntryCall) :
    ofCalls calls = {
      kind := last? kind? calls
      viewer := last? viewer? calls
      level := (last? level? calls).getD .message
      time := (last? time? calls).getD 0
      resolution := (last? resolution? calls).getD .standard
      atBuild := (last? readsClock? calls).getD false
      title := last? title? calls
      session := last? session? calls
      app := last? app? calls
      host := last? host? calls
      color := last? color? calls
      data := last? data? calls } := by
  induction calls using List.reverseRecOn with
  | nil => rfl
  | append_singleton calls c ih =>
    have hstep : ofCalls (calls ++ [c]) = (ofCalls calls).call c := List.foldl_append
    rw [hstep, call_eq, ih]
    simp only [last?_concat, Option.getD_or]

end EntryDraft

def given {π α : Type} (set : π → α → π) (value : Option α) (p : π) : π :=
  match value with
  | some a => set p a
  | none => p

namespace Entry

def setLevel (e : Entry) (l : Level) : Entry := { e with stamp := { e.stamp with level := l } }

def setTime (e : Entry) (t : Int64) : Entry := { e with stamp := { e.stamp with time := t } }

def setTitle (e : Entry) (s : String) : Entry := { e with title := some s }

def setSession (e : Entry) (s : String) : Entry := { e with session := some s }

def setApp (e : Entry) (s : String) : Entry := { e with app := some s }

def setHost (e : Entry) (s : String) : Entry := { e with host := some s }

def setColor (e : Entry) (c : Color) : Entry := { e with color := some c }

def setData (e : Entry) (bs : Bytes) : Entry := { e with data := some bs }

open EntryCall

/-- The time that calls give: the clock of the last resolution, if the last call about the time asks for
the clock, or else the last time that is given. -/
def timeOf (around : Ambient) (calls : List EntryCall) : Int64 :=
  if last? readsClock? calls = some true then
    around.clock ((last? resolution? calls).getD .standard)
  else (last? time? calls).getD 0

/-- A new entry on which every field is set that calls give, to what the last of them gives. -/
def direct (around : Ambient) (kind : EntryKind) (viewer : Viewer) (calls : List EntryCall) : Entry :=
  let e := given setLevel (last? level? calls) (Entry.blank around kind viewer)
  let e := given setTitle (last? title? calls) e
  let e := given setSession (last? session? calls) e
  let e := given setApp (last? app? calls) e
  let e := given setHost (last? host? calls) e
  let e := given setColor (last? color? calls) e
  let e := given setData (last? data? calls) e
  e.setTime (timeOf around calls)

@[simp] theorem given_setLevel (e : Entry) (l : Option Level) :
    given setLevel l e = { e with stamp := { e.stamp with level := l.getD e.stamp.level } } := by
  cases l <;> rfl

@[simp] theorem given_setTitle (e : Entry) (s : Option String) :
    given setTitle s e = { e with title := s.or e.title } := by
  cases s <;> rfl

@[simp] theorem given_setSession (e : Entry) (s : Option String) :
    given setSession s e = { e with session := s.or e.session } := by
  cases s <;> rfl

@[simp] theorem given_setApp (e : Entry) (s : Option String) :
    given setApp s e = { e with app := s.or e.app } := by
  cases s <;> rfl

@[simp] theorem given_setHost (e : Entry) (s : Option String) :
    given setHost s e = { e with host := s.or e.host } := by
  cases s <;> rfl

@[simp] theorem given_setColor (e : Entry) (c : Option Color) :
    given setColor c e = { e with color := c.or e.color } := by
  cases c <;> rfl

@[simp] theorem given_setData (e : Entry) (bs : Option Bytes) :
    given setData bs e = { e with data := bs.or e.data } := by
  cases bs <;> rfl

theorem direct_eq (around : Ambient) (kind : EntryKind) (viewer : Viewer) (calls : List EntryCall) :
    direct around kind viewer calls = {
      stamp := ⟨(last? level? calls).getD .message, timeOf around calls, around.thread,
        around.process⟩
      kind
      viewer
      title := last? title? calls
      session := last? session? calls
      app := last? app? calls
      host := last? host? calls
      color := last? color? calls
      data := last? data? calls } := by
  simp [direct, setTime, blank, Stamp.blank]

end Entry

namespace EntryDraft

open EntryCall

theorem build_ofCalls (calls : List EntryCall) (around : Ambient) :
    (ofCalls calls).build around =
      match last? kind? calls, last? viewer? calls with
      | none, _ => .error (.missingField "log_entry_type")
      | some _, none => .error (.missingField "viewer_id")
      | some kind, some viewer => .ok (.direct around kind viewer calls) := by
  rw [ofCalls_eq, build]
  cases last? kind? calls with
  | none => rfl
  | some kind =>
    cases last? viewer? calls with
    | none => rfl
    | some viewer =>
      dsimp only
      rw [Entry.direct_eq, Entry.timeOf]
      rcases last? readsClock? calls with - | - | - <;> rfl

end EntryDraft

namespace FlowCall

def step? : FlowCall → Option FlowStep
  | .step s => some s
  | _ => none

def level? : FlowCall → Option Level
  | .level l => some l
  | _ => none

def time? : FlowCall → Option Int64
  | .time t => some t
  | _ => none

def resolution? : FlowCall → Option Resolution
  | .resolution r => some r
  | _ => none

def title? : FlowCall → Option String
  | .title s => some s
  | _ => none

def host? : FlowCall → Option String
  | .host s => some s
  | _ => none

def process? : FlowCall → Option Int32
  | .process id => some id
  | _ => none

end FlowCall

namespace Flow

def setLevel (f : Flow) (l : Level) : Flow := { f with stamp := { f.stamp with level := l } }

def setTime (f : Flow) (t : Int64) : Flow := { f with stamp := { f.stamp with time := t } }

def setProcess (f : Flow) (id : Int32) : Flow := { f with stamp := { f.stamp with process := id } }

def setTitle (f : Flow) (s : String) : Flow := { f with title := some s }

def setHost (f : Flow) (s : String) : Flow := { f with host := some s }

open FlowCall

/-- The last time that calls give, or else the clock of the last resolution. -/
def timeOf (around : Ambient) (calls : List FlowCall) : Int64 :=
  (last? time? calls).getD (around.clock ((last? resolution? calls).getD .standard))

/-- A new flow on which every field is set that calls give, to what the last of them gives. -/
def direct (around : Ambient) (step : FlowStep) (calls : List FlowCall) : Flow :=
  let f := given setLevel (last? level? calls) (Flow.blank around step)
  let f := given setTitle (last? title? calls) f
  let f := given setHost (last? host? calls) f
  let f := given setProcess (last? process? calls) f
  f.setTime (timeOf around calls)

@[simp] theorem given_setLevel (f : Flow) (l : Option Level) :
    given setLevel l f = { f with stamp := { f.stamp with level := l.getD f.stamp.level } } := by
  cases l <;> rfl

@[simp] theorem given_setProcess (f : Flow) (id : Option Int32) :
    given setProcess id f =
      { f with stamp := { f.stamp with process := id.getD f.stamp.process } } := by
  cases id <;> rfl

@[simp] theorem given_setTitle (f : Flow) (s : Option String) :
    given setTitle s f = { f with title := s.or f.title } := by
  cases s <;> rfl

@[simp] theorem given_setHost (f : Flow) (s : Option String) :
    given setHost s f = { f with host := s.or f.host } := by
  cases s <;> rfl

theorem direct_eq (around : Ambient) (step : FlowStep) (calls : List FlowCall) :
    direct around step calls = {
      stamp := ⟨(last? level? calls).getD .message, timeOf around calls, around.thread,
        (last? process? calls).getD around.process⟩
      step
      title := last? title? calls
      host := last? host? calls } := by
  simp [direct, setTime, blank, Stamp.blank]

end Flow

namespace FlowDraft

open FlowCall

theorem call_eq (d : FlowDraft) (c : FlowCall) :
    d.call c = {
      step := c.step?.or d.step
      level := c.level?.getD d.level
      time := c.time?.or d.time
      resolution := c.resolution?.getD d.resolution
      title := c.title?.or d.title
      host := c.host?.or d.host
      process := c.process?.or d.process } := by
  cases c <;> rfl

theorem ofCalls_eq (calls : List FlowCall) :
    ofCalls calls = {
      step := last? step? calls
      level := (last? level? calls).getD .message
      time := last? time? calls
      resolution := (last? resolution? calls).getD .standard
      title := last? title? calls
      host := last? host? calls
      process := last? process? calls } := by
  induction calls using List.reverseRecOn with
  | nil => rfl
  | append_singleton calls c ih =>
    have hstep : ofCalls (calls ++ [c]) = (ofCalls calls).call c := List.foldl_append
    rw [hstep, call_eq, ih]
    simp only [last?_concat, Option.getD_or]

theorem build_ofCalls (calls : List FlowCall) (around : Ambient) :
    (ofCalls calls).build around =
      match last? step? calls with
      | none => .error (.missingField "process_flow_type")
      | some step => .ok (.direct around step calls) := by
  rw [ofCalls_eq, build]
  cases last? step? calls with
  | none => rfl
  | some step =>
    dsimp only
    rw [Flow.direct_eq]
    rfl

end FlowDraft

/-- After any calls, a draft is refused exactly if a field was never given that its packet must have, and
of an entry the kind is asked for before the viewer. Otherwise it builds what is made directly, by setting
on a new packet what the last call for each field gives. -/
theorem drafts_build_direct (around : Ambient) :
    (∀ calls : List EntryCall,
      (EntryDraft.ofCalls calls).build around =
        match last? EntryCall.kind? calls, last? EntryCall.viewer? calls with
        | none, _ => .error (.missingField "log_entry_type")
        | some _, none => .error (.missingField "viewer_id")
        | some kind, some viewer => .ok (.direct around kind viewer calls)) ∧
    ∀ calls : List FlowCall,
      (FlowDraft.ofCalls calls).build around =
        match last? FlowCall.step? calls with
        | none => .error (.missingField "process_flow_type")
        | some step => .ok (.direct around step calls) :=
  ⟨fun calls => EntryDraft.build_ofCalls calls around,
    fun calls => FlowDraft.build_ofCalls calls around⟩

/-- A resolution may come before the call that it matters for, and a given time may come to nothing. -/
example (around : Ambient) :
    (EntryDraft.ofCalls [.resolution .high, .timeNow, .kind .message, .time 5, .viewer .title,
        .timeNow]).build around =
      .ok ((Entry.blank around .message .title).setTime (around.clock .high)) := rfl

end PacketLog
