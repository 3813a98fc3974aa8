/-!
# RunRadar.Scan.Flight

The guard of **single flight**: a flag that lets one pass in at a time. Whoever finds it free
holds the permit until giving it back, and nobody else gets one meanwhile.
-/

namespace RunRadar

/-- The guard. -/
structure Flight where
  running : Bool
deriving DecidableEq

namespace Flight

/-- The guard that nobody holds. -/
def idle : Flight := ⟨false⟩

instance : Inhabited Flight := ⟨idle⟩

/-- Takes the guard if it is free; whether there is a permit. -/
def tryAcquire (flight : Flight) : Bool × Flight :=
  if flight.running then (false, flight) else (true, ⟨true⟩)

/-- Gives the guard back. -/
def release (_ : Flight) : Flight := ⟨false⟩

end Flight

/-! ### Callers -/

/-- What a caller does with the guard. -/
inductive FlightMove
  | acquire (caller : Nat)
  /-- Gives a permit back, if the caller holds one. -/
  | drop (caller : Nat)

/-- The guard with the callers that hold permits. -/
structure Flights where
  flight : Flight
  holders : List Nat

namespace Flights

/-- The guard before anybody has called. -/
def idle : Flights := ⟨.idle, []⟩

/-- A move: whether a permit was handed out, or given back. -/
def move (s : Flights) : FlightMove → Bool × Flights
  | .acquire caller =>
    let (granted, flight) := s.flight.tryAcquire
    (granted, ⟨flight, if granted then caller :: s.holders else s.holders⟩)
  | .drop caller =>
    if s.holders.contains caller then (true, ⟨s.flight.release, s.holders.erase caller⟩)
    else (false, s)

/-- The guard after some moves. -/
def moves (s : Flights) (ms : List FlightMove) : Flights := ms.foldl (fun s m => (s.move m).2) s

end Flights

end RunRadar
