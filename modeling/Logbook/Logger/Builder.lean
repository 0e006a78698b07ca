import Logbook.Logger

/-!
# Building loggers

A `Builder` collects what a root logger is to have.  `Builder.build` reads the patterns first, so that nothing has
changed when one of them is invalid, then prepares the sink: a given one gets the rules of the filter in addition to
its own, otherwise the settings say what to open.  The rules of the patterns come behind all other rules.
-/

namespace Logbook

structure Builder where
  name : String
  sink : Option Sink
  filter : Option Filter
  record : Record
  rules : List Redaction.Rule
  /-- Patterns that are read in the end. -/
  patterns : List String
  layout : Option Layout.Kind
  settings : Option Settings

namespace Builder

variable {σ : Type}

def named (name : String) : Builder := ⟨name, none, none, .empty, [], [], none, none⟩

def withSink (b : Builder) (sink : Sink) : Builder := { b with sink := some sink }

def withLevel (b : Builder) (level : Level) : Builder := { b with filter := some (.uniform level) }

def withFilter (b : Builder) (filter : Filter) : Builder := { b with filter := some filter }

def withRecord (b : Builder) (record : Record) : Builder := { b with record := b.record.merge record }

def withField (b : Builder) (key : String) (value : Value) : Builder := { b with record := b.record.set key value }

def withRule (b : Builder) (rule : Redaction.Rule) : Builder := { b with rules := b.rules ++ [rule] }

def withRedactedKeys (b : Builder) (keys : List String) : Builder := b.withRule (.keys (.ofList keys))

def withPattern (b : Builder) (pattern : String) : Builder := { b with patterns := b.patterns ++ [pattern] }

def withLayout (b : Builder) (layout : Layout.Kind) : Builder := { b with layout := some layout }

def withSettings (b : Builder) (settings : Settings) : Builder := { b with settings := some settings }

/-- The patterns as rules, or the error of the first that is invalid. -/
def patternRules (b : Builder) : Except Error (List Redaction.Rule) :=
  b.patterns.mapM fun p => (Redaction.Pattern.parse p Redaction.mask).map .pattern

/-- The settings that say what to open. -/
def effectiveSettings (b : Builder) : Settings :=
  let s := b.settings.getD .default
  { s with level := b.filter.getD s.level, layout := b.layout.getD s.layout }

/-- The given sink with the rules of the filter set, or a new one. -/
def prepareSink (b : Builder) (st : Store) : Except Error Sink × Store :=
  match b.sink with
  | some sink => (.ok sink, b.filter.elim st fun f => sink.setRules f st)
  | none => b.effectiveSettings.openSink st

def build (s : Suppliers σ) (h : Host) (b : Builder) : StateM (World σ) (Except Error Logger) := do
  match b.patternRules with
  | .error e => pure (.error e)
  | .ok patterns =>
    match ← World.update b.prepareSink with
    | .error e => pure (.error e)
    | .ok sink =>
      let l ← Logger.root s h b.name sink b.record (b.rules ++ patterns)
      pure (.ok l)

end Builder

end Logbook
