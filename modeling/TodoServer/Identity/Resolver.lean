/-
The users behind the subjects of tokens.

A token names its subject as the identity provider knows it; todos belong to users under ids of
our own. A resolver finds the id: in the table of users, or wherever else it is told to look.

* `User`, `Users.find` — registered users, found by subject in the database;
* `Identity.Resolution` — what a resolver comes back with;
* `Identity.Resolver.resolve` — the id for a subject.
-/
import TodoServer.Fault
import TodoServer.Sql.Session

namespace TodoServer

open Sql

/-- A registered user. -/
structure User where
  id : Datum
  externalSubject : Datum
  email : Datum
  nickname : Datum
  profileImageUrl : Datum
  createdAt : Datum
  updatedAt : Datum
deriving DecidableEq

/-- What is known of a user, by name. -/
def User.fields (user : User) : List (Text × Datum) :=
  [("id", user.id), ("externalSubject", user.externalSubject), ("email", user.email),
    ("nickname", user.nickname), ("profileImageUrl", user.profileImageUrl),
    ("createdAt", user.createdAt), ("updatedAt", user.updatedAt)]

namespace Users

def ofRow (row : Row) : User :=
  { id := row.get .id, externalSubject := row.get .externalSubject, email := row.get .email,
    nickname := row.get .nickname, profileImageUrl := row.get .profileImageUrl,
    createdAt := row.get .createdAt, updatedAt := row.get .updatedAt }

def findQuery (subject : Datum) : Query :=
  ⟨.select .users userColumns [.equals .externalSubject 1], [subject]⟩

/-- The user registered for a subject. -/
def find (subject : Datum) (s : Session) : Except Fault (Option User) × Session :=
  match s.send (findQuery subject) with
  | (.failed message _, s) => (.error (.raised message), s)
  | (.rows rows _, s) => (.ok (rows.head?.map ofRow), s)

end Users

namespace Identity

/-- What a resolver comes back with. -/
inductive Resolution
  /-- The id of a user, as it was found. -/
  | user (id : Datum)
  | unregistered
  | failed (message : Text)
deriving DecidableEq

/-- Where subjects are resolved. -/
inductive Resolver
  /-- In the table of users. -/
  | registered
  /-- By a rule of its own. -/
  | rule (answer : Datum → Resolution)

/-- The id for a subject. -/
def Resolver.resolve (resolver : Resolver) (subject : Datum) (s : Session) :
    Resolution × Session :=
  match resolver with
  | .rule answer => (answer subject, s)
  | .registered =>
    match Users.find subject s with
    | (.error fault, s) => (.failed fault.message, s)
    | (.ok none, s) => (.unregistered, s)
    | (.ok (some user), s) => (.user user.id, s)

end Identity

end TodoServer
