import SharedRecords.Channel.Poller

/-!
How a client waits for responses.
-/

namespace SharedRecords.Client

structure Options where
  wait : Channel.Strategy := .sleep (.ofMicroseconds 1)
  spinLimit : UInt32 := 1000
  /-- Without one a client waits forever. -/
  pollTimeout : Option Duration := none
  /-- How long a look takes at most, which is no setting but up to the platform. -/
  pace : Duration := Channel.Poller.usualPace
  deriving DecidableEq, Repr, Inhabited

namespace Options

def poller (options : Options) : Channel.Poller :=
  ⟨options.wait, options.spinLimit, options.pollTimeout⟩

def timeoutText : Option Duration → String
  | some timeout => "Some(" ++ timeout.text ++ ")"
  | none => "None"

def description (options : Options) : String :=
  "ClientConfig \x7b wait: " ++ options.wait.description ++ ", spin_limit: " ++
    toString options.spinLimit.toNat ++ ", poll_timeout: " ++ timeoutText options.pollTimeout ++ " \x7d"

end Options

end SharedRecords.Client
