import XmlTemplate.Number.Decimal
import XmlTemplate.Source.Id
import XmlTemplate.Template.DirectiveKind
import XmlTemplate.Text.Quoted

/-!
What an expansion reports about its progress.
-/

namespace XmlTemplate.Template

inductive Event
  | expanding (source : SourceId) (bound : Nat)
  | running (kind : DirectiveKind) (source : SourceId)
  | reused (target : SourceId)
  | loading (target : SourceId)
  | unbound (var : String) (source : SourceId)
  | selected (selector : String) (count : Nat)
  | expanded (source : SourceId) (kept hits misses : Nat)
deriving DecidableEq

inductive Level
  | debug
  | trace
deriving DecidableEq

namespace Event

/-- Single directives and selections are traced; the rest is for debugging. -/
def level : Event → Level
  | .running _ _ => .trace
  | .selected _ _ => .trace
  | _ => .debug

/-- The share of hits among all requests, in percent; without requests it is zero. -/
def hitRate (hits misses : Nat) : Float :=
  if hits + misses = 0 then 0.0
  else Float.ofNat hits / Float.ofNat (hits + misses) * 100.0

def message : Event → String
  | .expanding source bound => s!"Expanding {source.path} with {bound} binding(s)"
  | .running kind source => s!"Running <{kind.name}> directive in {source.path}"
  | .reused target => s!"Include cache hit for {target.path}"
  | .loading target => s!"Include cache miss for {target.path}, loading"
  | .unbound var source =>
      s!"No binding for dynamic var {Text.quoted var} in {source.path}; nothing injected"
  | .selected selector count => s!"Selector {Text.quoted selector} matched {count} node(s)"
  | .expanded source kept hits misses =>
      s!"Expanded {source.path}: {kept} include(s) cached, {hits} hit(s), {misses} miss(es), " ++
        Number.onePlace (hitRate hits misses) ++ "% hit rate"

def line (event : Event) : String :=
  (match event.level with
    | .debug => "DEBUG "
    | .trace => "TRACE ") ++ event.message

end Event
end XmlTemplate.Template
