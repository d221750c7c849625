namespace PacketLog.Wire

def microsPerDay : Int64 := 86400000000

def epochDay : Int64 := 25569

/-- The day number of a time in microseconds since the Unix epoch. -/
def dayNumber (micros : Int64) : Float :=
  (micros / microsPerDay + epochDay).toFloat +
    (micros % microsPerDay).toFloat / microsPerDay.toFloat

end PacketLog.Wire
