import ObjectCalculus.Session.Turn

/-!
# Running a session

Carries out steps one after the other and answers each. A failure is an answer
like any other, while a name that was never given ends the session.
-/

set_option autoImplicit false

namespace ObjectCalculus.Session

def bindAnswer (change : Store → Except BindError Store) : Turn Answer :=
  onStore fun store =>
    match Store.tryBind change store with
    | (.ok _, after) => (.done, after)
    | (.error failure, after) => (.bindFailure failure, after)

def step : Step → Turn Answer
  | .make target making => do
      match ← make making with
      | .ok object =>
          nameObject target object
          pure (.object (← label object))
      | .error fault => pure fault.answer
  | .declare target name attributes => do
      let template := Template.ofDeclarations name
        (attributes.map fun entry => (entry.1, entry.2.spec))
      modify fun session =>
        { session with store := session.store.declare target template }
      pure (.template template)
  | .spec template name => do
      let definition ← definition template
      pure (.spec (definition.template.position? name)
        ((definition.template.spec? name).map Spec.kind))
  | .coerce target source => do
      nameCoercion target (.ofRaw (← raw source))
      pure .done
  | .showCoercion name => do
      match ← force name with
      | .ok object => pure (.text (← onStore fun store => store.display object))
      | .error failure => pure (.text (Deferred.failureText failure))
  | .bind target name value => do
      let bound ← operand value
      let object ← object target
      bindAnswer fun store => store.bind object name bound
  | .bindAt target name index value => do
      let bound ← operand value
      let object ← object target
      bindAnswer fun store => store.bindAt object name index bound
  | .sequence target name => do
      match ← execute (Program.sequence (← object target) name) with
      | .ok items => do
          let store := (← get).store
          pure (.labels (items.map store.label))
      | .error failure => pure (.failure failure)
  | .dataize target expected route => do
      let object ← object target
      let config := route.config (← get).config
      let result ← perform (Evaluation.dataize config object expected)
      pure (Answer.ofResult .value result)
  | .resolve target => do
      let object ← object target
      let result ← perform (Evaluation.resolve (← get).config object)
      pure (Answer.ofResult .value result)
  | .depth => do
      pure (.number (← get).store.activity.depth)
  | .datum target => do
      let object ← object target
      pure (.datum (← onStore fun store => store.datum object))
  | .display target => do
      let object ← object target
      pure (.text (← onStore fun store => store.display object))
  | .outline target spread => do
      let object ← object target
      let outline ← onStore fun store => store.outline object
      pure (.text (if spread then outline.spread else outline.line))
  | .inspect target => do
      let object ← object target
      pure (.inspection (.ofObject (← get).store object))
  | .kindOf target name => do
      let object ← object target
      pure (.kindOf (((← get).store.slot? object name).map Slot.kind))
  | .same target other => do
      let left ← object target
      let right ← object other
      pure (.sameness (.ofObjects (← get).store left right))
  | .runs target => do
      let object ← object target
      match (← get).store.leaf? object with
      | some leaf => pure (.number leaf.runs)
      | none => pure (.number 0)
  | .counters => do
      pure (.counters (← get).store.counters)
  | .config => do
      pure (.config (← get).config)

def run (config : Config) (steps : List Step) :
    Except UnknownName (List Answer × List Event) := do
  let (answers, session) ← (steps.mapM step).run (start config)
  pure (answers, session.store.events.toList)

end ObjectCalculus.Session
