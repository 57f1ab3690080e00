/-!
# The firmware's build step

For a host build the firmware's build step has nothing to generate: it only tells the build
tool to run it again when the build script itself changes.
-/

namespace PinballAudio.Tooling.BuildScript

def hostDirectives : List String := ["cargo:rerun-if-changed=build.rs"]

def hostOutput : String := String.join (hostDirectives.map (· ++ "\n"))

end PinballAudio.Tooling.BuildScript
