/-!
Powers and sums of naturals are those of the core library in every module, whatever other algebra a
module imports.
-/

attribute [instance (high)] instPowNat Zero.ofOfNat0
attribute [default_instance 20000] instPowNat
