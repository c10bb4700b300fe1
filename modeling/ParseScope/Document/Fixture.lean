import ParseScope.Fixture.Basic
import ParseScope.Json.Value

/-!
Fixtures as documents.
-/
namespace ParseScope.Fixture

open Json (Value)

def write (fixture : Fixture) : Value :=
  .object [("title", .string fixture.title), ("highlighted", .bool fixture.highlighted),
    ("grammar", .string fixture.grammar), ("input", .string fixture.input),
    ("fields", .object (fixture.fields.entries.map fun (name, value) => (name, .string value)))]

end ParseScope.Fixture
