import Rewinding.Config.Validate
import Rewinding.Description.Assembly
import Rewinding.Session
import Rewinding.Text.Quoted

/-!
# Scenarios

Small graphs to try rewinds on, and what is needed to try them: a session in which every node is done
and defects are collected. What must not fail in a trial ends it with a text.
-/

namespace Rewinding

namespace Scenario

/-- A source that one action compiles and another links: `src/a.c`, `out/a.o`, `out/f`. -/
def simpleChain : Description :=
  ({} : Description)
    |>.withAction "//pkg:p#0"
      ((ActionSection.ofMnemonic "Compile").withInput "src/a.c" |>.withOutput "out/a.o")
    |>.withAction "//pkg:f#0"
      ((ActionSection.ofMnemonic "Link").withInput "out/a.o" |>.withOutput "out/f")

/-- A tree made by an action that passes its inputs on: `src/b.in`, `out/b`, the tree `out/t` with
its member `out/t/l`, and `out/f`. -/
def propagatingTree : Description :=
  ({} : Description)
    |>.withAction "//pkg:r#0"
      ((ActionSection.ofMnemonic "Genrule").withInput "src/b.in" |>.withOutput "out/b")
    |>.withAction "//pkg:q#0"
      ((ActionSection.ofMnemonic "SymlinkTree").withInput "out/b" |>.withOutput "out/t" |>.propagating)
    |>.withTree "out/t" ["out/t/l"]
    |>.withAction "//pkg:f#0"
      ((ActionSection.ofMnemonic "Link").withInput "out/t" |>.withOutput "out/f")

/-! ### Trials -/

/-- How the end of a trial quotes a rejection. -/
def quotedRejection (r : Rejection) : String :=
  (if r.isCycle then "GraphCycle" else "ConfigError") ++ "(" ++ Text.quoted r.text ++ ")"

/-- A description that is expected to be valid. -/
def demand (d : Description) : Except String Config :=
  d.validate.mapError fun r => "Failed to build valid graph from builder: " ++ quotedRejection r

/-- A text that is expected to be a key. -/
def demandKey (text : String) : Except String ActionKey :=
  (ActionKey.parse text).mapError fun e => "valid action key: " ++ Text.quoted e.message

/-- A session in which every node has been completed once. -/
def trial (c : Config) : Session :=
  let s : Session :=
    { graph := Graph.ofConfig c, reporter := .collect, maxRewinds := c.settings.maxRewinds }
  s.completeAll

/-- What an executor would report for a path of a trial, which is expected to be done. -/
def demandLost (s : Session) (path : String) : Except String (String × Input) :=
  match s.expected? path with
  | some entry => .ok entry
  | none => .error "artifact is done"

/-- The loss of some paths of a trial, which are expected to be done. -/
def demandLoss (s : Session) (paths : List String) : Except String Loss :=
  (s.lossOf "lost inputs" paths).mapError fun _ => "artifact is done"

/-- Compute a plan in a trial, which may be cancelled. -/
def plan (s : Session) (key : ActionKey) (loss : Loss) (cancelled : Bool) :
    Except Stop Plan × Session :=
  let (result, s) := (s.update fun b => { b with interrupted := cancelled }).planForKey key loss
  (result, s.update Build.clearInterrupt)

end Scenario

end Rewinding
