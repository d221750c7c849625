import PacketLog.Output.Failure

namespace PacketLog

structure Report where
  message : String
  error : DeliveryError
  code : FailureCode
  deriving DecidableEq, Repr

def Report.ofError (error : DeliveryError) : Report := ⟨error.message, error, error.code⟩

/-- Something that is told about failures. -/
class ErrorHook (η : Type) where
  report : η → Report → η

/-- A hook that keeps every report, in order. -/
structure ReportLog where
  reports : List Report := []
  deriving DecidableEq, Repr

instance : ErrorHook ReportLog := ⟨fun log r => ⟨log.reports ++ [r]⟩⟩

end PacketLog
