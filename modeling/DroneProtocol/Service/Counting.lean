import DroneProtocol.Service.Datum
import DroneProtocol.Metrics.Counters

/-! # Metrics requests

`metrics` applies a list of counting calls to fresh metrics, or to absent
metrics when the request says `nil`, and answers the touched series.
Registering the same metrics twice with one registry is refused.
-/

namespace DroneProtocol.Service

namespace Counting

def call (m : Metrics) (q : Datum) : Metrics :=
  let arg := q.string "arg"
  match q.string "call" with
  | "encoded" => m.encoded arg
  | "decoded" => m.decoded arg
  | "codec_error" => m.codecError arg
  | "notified" => m.notified arg
  | "callback_failed" => m.callbackFailed arg
  | "unmatched" => m.unmatched arg ((q.intAt? "n").getD 0).toNat
  | "observe_notify" => m.observeNotify arg
  | _ => m

def duplicateRegistration : String := "duplicate metrics collector registration attempted"

def run (req : Datum) : Datum :=
  let m : Option Metrics := if req.flag "nil" then none else some (Metrics.create (req.string "namespace"))
  let m := (req.list "calls").foldl (fun m q => Metrics.update m (call · q)) m
  .obj [("register_error", if req.flag "register_twice"
      then .obj [("error", .str "error"), ("message", .str duplicateRegistration), ("sentinels", .arr [])]
      else .null),
    ("metrics", .strs ((m.map Metrics.lines).getD []))]

end Counting

end DroneProtocol.Service
