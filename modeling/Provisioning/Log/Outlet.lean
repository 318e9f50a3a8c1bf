import Provisioning.Log.Line
import Provisioning.Log.Setup

/-!
Where events are written to: the two standard streams and the files of a program.
-/

namespace Provisioning.Log

def Logger.line (logger : Logger) (time : String) (event : Event) : String :=
  match logger.format with
  | .text => event.textLine logger.color time ++ "\n"
  | .json => event.jsonLine time ++ "\n"

structure Outlet where
  surroundings : Surroundings
  logger : Option Logger := none
  stdout : String := ""
  stderr : String := ""

namespace Outlet

/-- Logging is set up once. Trying again has every effect of setting it up except a new logger. -/
def setUp (outlet : Outlet) (config : Config) : Outlet × Except SetupFault Unit :=
  let notices := Setup.notices outlet.surroundings.environment config
  let outlet := { outlet with
    stderr := outlet.stderr ++ String.join (notices.map fun notice => notice ++ "\n") }
  match Setup.run outlet.surroundings config with
  | .error fault => (outlet, .error fault)
  | .ok (logger, files) =>
      let outlet := { outlet with surroundings := { outlet.surroundings with files } }
      match outlet.logger with
      | some _ => (outlet, .error .repeated)
      | none => ({ outlet with logger := some logger }, .ok ())

def write (outlet : Outlet) (logger : Logger) (line : String) : Outlet :=
  match logger.output with
  | .stdout => { outlet with stdout := outlet.stdout ++ line }
  | .stderr => { outlet with stderr := outlet.stderr ++ line }
  | .both => { outlet with stdout := outlet.stdout ++ line, stderr := outlet.stderr ++ line }
  | .file =>
      let files := outlet.surroundings.files.append logger.place line
      { outlet with surroundings := { outlet.surroundings with files } }

def record (time : String) (outlet : Outlet) (event : Event) : Outlet :=
  match outlet.logger with
  | none => outlet
  | some logger =>
      if logger.filter.admits event then
        outlet.write logger (logger.line time event)
      else
        outlet

end Outlet

end Provisioning.Log
