import Troupe.Run.Report
import Troupe.Theatre.Basic

/-!
# Starting runs and waiting for them

For a run that is started there is a ticket, by which it can be asked about, waited for or let go.
Waiting for a run and letting it go both give its ticket away. The streams of a run go on whether or
not anyone holds its ticket.
-/

namespace Troupe.Theatre

/-- Starts a run of scripts, and returns its number. Its streams may go on at once. -/
def launch (t : Theatre) (heroMode : Bool) (scripts : List (SpriteId × Script)) :
    Outcome Theatre Nat :=
  let number := t.productions.length
  { answer := number
    state :=
      { t with
        productions := t.productions ++
          [{ run := .ofScripts t.workspace.settings heroMode scripts, start := t.clock }]
        ready := t.ready ++
          (List.range scripts.length).map fun stream => { run := number, stream } }
    log := [.runStarted scripts.length heroMode] }

/-- Lets a number of milliseconds pass. -/
def advance (t : Theatre) (duration : Nat) : Outcome Theatre Unit :=
  let time := t.clock + duration
  let settled := t.settle
  let fired := (settled.state.fireUntil time).following settled.log
  fired.lift fun later => { later with clock := time }

/-- The report of a run at the time it is. -/
def report? (t : Theatre) (number : Nat) : Option Report :=
  t.productions[number]?.map fun p => p.run.report (t.elapsed p.start t.clock)

/-- Waits for a run to its end. -/
def await (t : Theatre) (number : Nat) : Outcome Theatre (Option Report) :=
  let settled := t.settle
  let ended := (settled.state.fireUntilFinished number).following settled.log
  let report := ended.state.report? number
  { answer := report, state := ended.state, log := ended.log ++ report.toList.map Report.event }

/-- Performs the scripts of all sprites on the stage to their end. -/
def play (t : Theatre) : Outcome Theatre (Option Report) :=
  let launched := t.launch t.workspace.heroMode t.workspace.castScripts
  (launched.state.await launched.answer).following launched.log

/-! ## Tickets -/

/-- Starts a run of scripts, and returns its ticket. -/
def startScripts (t : Theatre) (heroMode : Bool) (scripts : List (SpriteId × Script)) :
    Outcome Theatre Nat :=
  let launched := t.launch heroMode scripts
  { answer := t.tickets.length
    state := { launched.state with tickets := t.tickets ++ [some launched.answer] }
    log := launched.log }

/-- Starts a run of the scripts of all sprites on the stage, and returns its ticket. -/
def start (t : Theatre) : Outcome Theatre Nat :=
  t.startScripts t.workspace.heroMode t.workspace.castScripts

/-- The number of the run of a ticket that was not given away. -/
def runNumber? (t : Theatre) (ticket : Nat) : Option Nat := t.tickets[ticket]?.join

/-- The run of a ticket that was not given away. -/
def run? (t : Theatre) (ticket : Nat) : Option Run := do
  let p ← t.productions[← t.runNumber? ticket]?
  return p.run

/-- The theatre with a ticket given away. -/
def giveAway (t : Theatre) (ticket : Nat) : Theatre :=
  { t with tickets := t.tickets.set ticket none }

/-- Waits for the run of a ticket to its end. -/
def join (t : Theatre) (ticket : Nat) : Outcome Theatre (Option Report) :=
  match t.runNumber? ticket with
  | some number => (t.giveAway ticket).await number
  | none => { answer := none, state := t }

/-- Lets the run of a ticket go, and tells whether there is one. -/
def detach (t : Theatre) (ticket : Nat) : Outcome Theatre Bool where
  answer := (t.runNumber? ticket).isSome
  state := t.giveAway ticket

end Troupe.Theatre
