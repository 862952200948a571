set_option autoImplicit false

namespace Enrolment

inductive Environment
  | localhost
  | dev
  | staging
  | prod
  deriving Repr, DecidableEq, Inhabited

namespace Environment

def all : List Environment := [localhost, dev, staging, prod]

def name : Environment → String
  | localhost => "local"
  | dev => "dev"
  | staging => "staging"
  | prod => "prod"

def ofName? (name : String) : Option Environment :=
  all.find? fun environment => environment.name == name

end Environment

end Enrolment
