import PacketLog.Output.Sink
import PacketLog.Session.Basic

namespace PacketLog

/-- A session that sends packets to a sink. -/
structure PacketSession (κ : Type) where
  name : String
  app : Option String := none
  host : Option String := none
  /-- The least level that is logged. -/
  threshold : Level := .debug
  resolution : Resolution := .standard
  /-- The background colour of log entries. -/
  color : Option Color := none
  active : Bool := true
  /-- The surroundings that packets are stamped from. -/
  around : Ambient
  sink : κ

namespace PacketSession

def byteOrderMark : Bytes := [0xEF, 0xBB, 0xBF]

variable {κ : Type} [PacketSink κ]

def isOn (s : PacketSession κ) (level : Level) : Bool := s.active && s.threshold ≤ level

def entry (s : PacketSession κ) (level : Level) (title : String) (kind : EntryKind)
    (viewer : Viewer) (data : Option Bytes) : Entry where
  stamp := .now s.around level s.resolution
  kind
  viewer
  title := some title
  session := some s.name
  app := s.app
  host := s.host
  color := s.color
  data

def flow (s : PacketSession κ) (level : Level) (title : String) (step : FlowStep) : Flow where
  stamp := .now s.around level s.resolution
  step
  title := some title
  host := s.host

def send (s : PacketSession κ) (p : Packet) : Except DeliveryError Unit × PacketSession κ :=
  let (result, sink) := PacketSink.send s.sink p
  (result, { s with sink })

/-- Sends packets up to the first that is refused. -/
def sendEach (s : PacketSession κ) : List Packet → Except DeliveryError Unit × PacketSession κ
  | [] => (.ok (), s)
  | p :: rest =>
    match s.send p with
    | (.ok (), s) => s.sendEach rest
    | (.error e, s) => (.error e, s)

/-- The packets that an operation asks for, with the level that has to be on for them. -/
def packets (s : PacketSession κ) (operation : Operation) (title : String) : Level × List Packet :=
  match operation with
  | .logDebug => plain .debug .debug
  | .logVerbose => plain .verbose .verbose
  | .logMessage => plain .message .message
  | .logWarning => plain .warning .warning
  | .logError => plain .error .error
  | .logException error =>
    let data := byteOrderMark ++ Text.bytes error.report
    (.error, [.entry (s.entry .error title .error .data (some data))])
  | .enterMethod level => method level .enterMethod .enterMethod
  | .leaveMethod level => method level .leaveMethod .leaveMethod
where
  plain (level : Level) (kind : EntryKind) : Level × List Packet :=
    (level, [.entry (s.entry level title kind .title none)])
  method (level : Level) (kind : EntryKind) (step : FlowStep) : Level × List Packet :=
    (level, [.entry (s.entry level title kind .title none), .flow (s.flow level title step)])

/-- Logs a title, if the level of the operation is on. -/
def log (s : PacketSession κ) (operation : Operation) (title : String) :
    Except DeliveryError Unit × PacketSession κ :=
  let (level, packets) := s.packets operation title
  if s.isOn level then s.sendEach packets else (.ok (), s)

def labels (s : PacketSession κ) : Except PacketFault Labels :=
  Labels.empty.setAll
    ((s.host.map fun host => ("hostname", host)).toList ++
      (s.app.map fun app => ("appname", app)).toList)

/-- Sends a log header, whatever the level. -/
def sendHeader (s : PacketSession κ) : Except DeliveryError Unit × PacketSession κ :=
  match s.labels with
  | .error fault => (.error (.invalid fault), s)
  | .ok labels => s.send (.header { Header.blank s.around with labels })

instance : Session (PacketSession κ) where
  isOn s level := (.ok (s.isOn level), s)
  log s operation title := let (result, s) := s.log operation title; (.ok result, s)

end PacketSession

end PacketLog
