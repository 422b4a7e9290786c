import NumberingPlan.Settings

/-! A program that loads settings while files come and go. What it has loaded is kept from its
start to its end. -/

namespace NumberingPlan

/-- What happens in a session: an entry is written, an entry is taken away, or settings are
loaded. -/
inductive Act where
  | write (parts : List String) (entry : FileEntry)
  | delete (parts : List String)
  | load (name : Option String)
  deriving DecidableEq, Repr

/-- The files as they are now, and the settings that have been loaded so far. -/
structure Session where
  files : Files := []
  cache : Settings.Cache := []
  deriving DecidableEq, Repr

namespace Session

variable [SettingsReader] (working : Path)

/-- What loading settings gives, and the session after it. -/
def load (session : Session) (name : Option String) : Except Settings.Fault Settings × Session :=
  let (answer, cache) := Settings.load (session.files.reader working) working session.cache name
  (answer, { session with cache })

def step (session : Session) : Act → Session
  | .write parts entry => { session with files := session.files.write parts entry }
  | .delete parts => { session with files := session.files.delete parts }
  | .load name => (session.load working name).2

def run (session : Session) (acts : List Act) : Session := acts.foldl (step working) session

end Session

end NumberingPlan
