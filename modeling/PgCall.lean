import PgCall.CInt
import PgCall.Interval
import PgCall.DateTime
import PgCall.Calendar
import PgCall.RoundTrip
import PgCall.CivilTime
import PgCall.BrokenDown
import PgCall.Typmod
import PgCall.TimestampIn
import PgCall.TimestampArith
import PgCall.TimestampOut
import PgCall.Float
import PgCall.Hash
import PgCall.HashFloat
