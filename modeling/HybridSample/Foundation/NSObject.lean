import HybridSample.Foundation.NSString

/-!
# Objects and dictionaries

The sources receive untyped objects (`id`) and ask one question about them: whether they are
an `NSDictionary`. `nil` is `none`, so a variable of type `id` is an `Option NSObject`.
-/

namespace HybridSample

/-- An object: a dictionary, a string, or an instance of a class the sources only pass on. -/
inductive NSObject where
  | dictionary (entries : List (NSString × NSObject))
  | string (text : NSString)
  | other (className : NSString)

abbrev NSDictionary := List (NSString × NSObject)

/-- `objectForKey:`, which is also what `valueForKey:` does for a key without a leading `@`. -/
def NSDictionary.objectForKey (d : NSDictionary) (key : NSString) : Option NSObject :=
  d.lookup key

/-- `[object isKindOfClass:[NSDictionary class]]`. -/
def NSObject.isDictionary : NSObject → Bool
  | .dictionary _ => true
  | _ => false

/-- `[[NSDictionary alloc] initWithDictionary:object]`, which raises unless the object is a
dictionary. -/
def NSDictionary.initWithDictionary (object : NSObject) (h : object.isDictionary = true) :
    NSDictionary :=
  match object, h with
  | .dictionary entries, _ => entries

end HybridSample
