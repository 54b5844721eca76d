/-
Policies: which subjects may or may not perform which actions on which resources, and under which
conditions.
-/
import AccessControl.Condition
import AccessControl.Urn

namespace AccessControl

inductive Effect
  | allow
  | deny
deriving DecidableEq, Repr

namespace Effect

def words : List (String × Effect) := [("allow", allow), ("deny", deny)]

def word : Effect → String
  | allow => "allow"
  | deny => "deny"

end Effect

structure Policy where
  id : Urn .policy
  description : Option String
  /-- Patterns; a policy applies to a request that one of each list matches. -/
  subjects : List String
  resources : List String
  actions : List String
  effect : Effect
  /-- Conditions on attributes, all of which have to hold. -/
  conditions : Assoc Condition
deriving Repr

namespace Policy

/-- A policy that applies to nothing. -/
def ofEffect (effect : Effect) : Policy := ⟨⟨""⟩, none, [], [], [], effect, []⟩

def texts (items : List String) : Json := .array (items.map .text)

def toJson (policy : Policy) : Json :=
  .object <|
    [("id", .text policy.id.text)] ++
    (policy.description.map fun d => ("description", Json.text d)).toList ++
    [("subjects", texts policy.subjects), ("resources", texts policy.resources),
      ("actions", texts policy.actions), ("effect", .text policy.effect.word)] ++
    if policy.conditions.isEmpty then []
    else [("conditions", .object (policy.conditions.map fun e => (e.1, e.2.toJson)))]

open Json.Decoder in
def decoder : Json.Decoder Policy :=
  record
    [.defaulted "id" text fun id policy => { policy with id := ⟨id⟩ },
      .defaulted "description" (optional text) fun description policy =>
        { policy with description },
      .defaulted "subjects" (list text) fun subjects policy => { policy with subjects },
      .defaulted "resources" (list text) fun resources policy => { policy with resources },
      .defaulted "actions" (list text) fun actions policy => { policy with actions },
      .needed "effect" (word Effect.words) fun effect policy => { policy with effect },
      .defaulted "conditions" (map Condition.decoder) fun conditions policy =>
        { policy with conditions }]
    (ofEffect .deny)

end Policy

end AccessControl
