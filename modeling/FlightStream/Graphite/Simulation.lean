import FlightStream.Dataflow.Effect
import FlightStream.Graphite.Sink

/-!
A simulated network: each part of it answers as it is told, its clock is moved by hand, and the
traffic is kept for whoever looks. What a breakage lets through is what the link allows: a
failing write puts nothing on the wire, a failing drain comes after the frame.
-/

namespace FlightStream.Graphite

open Dataflow

/-- A simulated network; a part without a breakage succeeds. -/
structure Simulation where
  connect : Option Breakage := none
  write : Option Breakage := none
  drain : Option Breakage := none
  close : Option Breakage := none
  clock : Float := 0
  traffic : List Traffic := []

namespace Simulation

/-- The network with more traffic. -/
def saw (n : Simulation) (traffic : Traffic) : Simulation :=
  { n with traffic := n.traffic ++ [traffic] }

/-- The answer of a part. -/
def answer : Option Breakage → Except Breakage Unit
  | some b => .error b
  | none => .ok ()

/-- Delivery over the network to a receiver. -/
def link (host : String) (port : Int) : Link Simulation Float where
  now n := n.clock
  connect n := (n.saw (.attempted host port), answer n.connect)
  write frame n :=
    match n.write with
    | some b => (n, .error b)
    | none => (n.saw (.written frame), .ok ())
  drain n := (n, answer n.drain)
  close n := (n.saw .closed, answer n.close)

/-- The traffic since the last look. -/
def observe (n : Simulation) : Simulation × List Traffic :=
  ({ n with traffic := [] }, n.traffic)

/-- The network later. -/
def advance (n : Simulation) (time : Float) : Simulation := { n with clock := n.clock + time }

end Simulation

end FlightStream.Graphite
