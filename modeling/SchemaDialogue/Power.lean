/-!
# Powers

Powers of numbers are those of the core library, also in modules that see a library with powers of
its own.
-/

namespace SchemaDialogue

attribute [instance (2000)] instPowNat instNatPowNat
attribute [default_instance 20000] instPowNat

end SchemaDialogue
