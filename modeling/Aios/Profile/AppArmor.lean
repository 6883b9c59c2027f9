import Aios.Profile.Composer

/-! # Generating AppArmor profiles

The embedding of `confinement_generator.rs`: a sandbox profile is written out as the text of an AppArmor
profile, one writer per section, and the text is truncated where it grows too long. The Unicode lowercase
mapping is a parameter.
-/

namespace Aios.Profile

/-- `str::to_lowercase`. -/
structure Unicode where
  toLowercase : String → String

def DEFAULT_MAX_PROFILE_BYTES : ℕ := 32768

inductive ConfinementStrategy where
  | appArmorOnly
  | appArmorWithSystemd
  | vmNoHostProfile
  | appArmorBrowser
  | rejected
deriving DecidableEq, Repr

structure GeneratedProfile where
  profileName : String
  content : String
  generated : Bool
  strategy : ConfinementStrategy
deriving DecidableEq, Repr

/-- The derived `Debug` form. -/
def IsolationKind.debug : IsolationKind → String
  | namespaceLocal => "NamespaceLocal"
  | processContainer => "ProcessContainer"
  | vmGuest => "VmGuest"
  | browserOriginIsolated => "BrowserOriginIsolated"
  | noIsolation => "NoIsolation"

def strategyFor : IsolationKind → ConfinementStrategy
  | .namespaceLocal => .appArmorOnly
  | .processContainer => .appArmorWithSystemd
  | .vmGuest => .vmNoHostProfile
  | .browserOriginIsolated => .appArmorBrowser
  | .noIsolation => .rejected

/-! ## The writers -/

def writeHeader (profileName : String) (sandbox : SandboxProfile) : String :=
  "# AI-OS.NET Rev.6 — Auto-generated AppArmor profile\n" ++
  "# Generated by aios-sandbox confinement_generator\n" ++
  s!"# Profile: {sandbox.name}\n" ++
  s!"# Description: {sandbox.description}\n" ++
  s!"# Isolation: {sandbox.isolationKind.debug}\n" ++
  "\n" ++
  "#include <tunables/global>\n" ++
  "\n" ++
  s!"profile {profileName}" ++
  " \x7b\n"

def writeIncludes : String :=
  "  #include <abstractions/base>\n" ++
  "  #include <abstractions/fonts>\n" ++
  "\n"

def writeFlags (strategy : ConfinementStrategy) : String :=
  if strategy = .appArmorBrowser then
    "  # Browser-origin isolation: attach_disconnected flag.\n" ++
    "  flags=(attach_disconnected)\n"
  else ""

def writePathRules (profileName : String) : String :=
  let capsuleHome := s!"/var/lib/aios/capsules/{profileName}/"
  "\n  # ── Capsule home ─────────────────────────\n" ++
  s!"  owner {capsuleHome} r,\n" ++
  s!"  owner {capsuleHome}** rwlkmix,\n" ++
  "\n  # ── System shared data (read-only) ──────\n" ++
  "  /usr/share/ r,\n" ++
  "  /usr/share/** r,\n" ++
  "  /etc/aios/ r,\n" ++
  "  /etc/aios/** r,\n" ++
  "\n  # ── System libraries ────────────────────\n" ++
  "  /usr/lib/ r,\n" ++
  "  /usr/lib/** mr,\n" ++
  "\n  # ── Wayland socket ──────────────────────\n" ++
  "  owner /run/user/[0-9]*/wayland-[0-9]* rw,\n" ++
  "\n  # ── X11 fallback ────────────────────────\n" ++
  "  /tmp/.X11-unix/X[0-9]* rw,\n" ++
  "\n  # ── PulseAudio / PipeWire ───────────────\n" ++
  "  unix (abstract=\"pipewire-0\"),\n" ++
  "\n  # ── Deny dangerous paths ────────────────\n" ++
  "  deny /boot/** rwxlkmix,\n" ++
  "  deny /root/** rwxlkmix,\n" ++
  "  deny /etc/shadow rwxlkmix,\n" ++
  "  deny @\x7bPROC\x7d/sys/** rwxlkmix,\n" ++
  "  deny /sys/kernel/** rwxlkmix,\n"

def postureRules : NetworkPosture → String
  | .denyAll =>
    "  deny network inet,\n" ++
    "  deny network inet6,\n" ++
    "  deny network raw,\n" ++
    "  deny network packet,\n"
  | .loopbackOnly =>
    "  # Loopback-only: no external connectivity.\n" ++
    "  deny network inet,\n" ++
    "  deny network inet6,\n" ++
    "  deny network raw,\n"
  | .hostLimited | .explicitAllowlist =>
    "  # Explicit allow-list (browser-style).\n" ++
    "  network inet stream,\n" ++
    "  network inet6 stream,\n" ++
    "  network inet dgram,\n" ++
    "  network inet6 dgram,\n"
  | .full =>
    "  # Full network access granted.\n" ++
    "  network inet,\n" ++
    "  network inet6,\n"

def writeNetworkRules (posture : NetworkPosture) (strategy : ConfinementStrategy) : String :=
  "\n  # ── Network ─────────────────────────────\n" ++
  postureRules posture ++
  if strategy = .appArmorBrowser then
    "  # Browser: allow DNS over TCP/UDP + ephemeral\n" ++
    "  network inet dgram,\n" ++
    "  network inet6 dgram,\n"
  else ""

def gpuClassRules : GpuCapabilityClass → String
  | .gpuPassiveDisplay =>
    "  # Passive display: X11 only, no DRI.\n" ++
    "  deny /dev/dri/ rw,\n" ++
    "  deny /dev/dri/** rw,\n"
  | .gpuBasic2d | .gpuRich2d =>
    "  # Basic/Rich 2D: DRI render node.\n" ++
    "  /dev/dri/ r,\n" ++
    "  owner /dev/dri/renderD[0-9]* rw,\n"
  | .gpuFull3d =>
    "  # Full 3D: DRI card + render nodes.\n" ++
    "  /dev/dri/ r,\n" ++
    "  owner /dev/dri/card[0-9]* rw,\n" ++
    "  owner /dev/dri/renderD[0-9]* rw,\n"
  | .gpuComputeHeavy =>
    "  # Compute heavy: DRI + Vulkan ICD paths.\n" ++
    "  /dev/dri/ r,\n" ++
    "  owner /dev/dri/card[0-9]* rw,\n" ++
    "  owner /dev/dri/renderD[0-9]* rw,\n" ++
    "  /usr/share/vulkan/ r,\n" ++
    "  /usr/share/vulkan/** r,\n" ++
    "  /etc/vulkan/ r,\n" ++
    "  /etc/vulkan/** r,\n" ++
    "  # Vulkan ICD loaders\n" ++
    "  /usr/lib/x86_64-linux-gnu/libvulkan* mr,\n"

def writeGpuRules (gpu : GpuPolicy) : String :=
  "\n  # ── GPU ─────────────────────────────────\n" ++
  gpuClassRules gpu.gpuCapabilityClass ++
  (if gpu.vkDeviceRequired then "  # vk_device_required: dedicated VkDevice\n" else "") ++
  (if gpu.iommuRequired then "  # IOMMU required for DMA isolation\n" else "")

/-- The entries that `write_syscall_caps` knows. -/
def knownCapabilities : List String :=
  ["net_bind_service", "net_raw", "sys_tty_config", "ipc_lock", "sys_nice", "net_admin"]

/-- `entry.to_lowercase().replace('-', "_")`. -/
def normalized (unicode : Unicode) (entry : String) : String :=
  String.ofList ((unicode.toLowercase entry).toList.map fun c => if c = '-' then '_' else c)

def capabilityLine (capability : String) : String := s!"  capability {capability},\n"

def unknownEntryLine (entry : String) : String :=
  s!"  # unknown syscall allowlist entry: {entry} — denied by default\n"

def writeEntry (unicode : Unicode) (entry : String) : String :=
  if normalized unicode entry ∈ knownCapabilities then capabilityLine (normalized unicode entry)
  else unknownEntryLine entry

/-- What `write_syscall_caps` writes before the allowlist. -/
def deniedCapabilities : String :=
  "\n  # ── Capabilities ────────────────────────\n" ++
  "  deny capability sys_ptrace,\n" ++
  "  deny capability sys_admin,\n" ++
  "  deny capability sys_module,\n"

def writeSyscallCaps (unicode : Unicode) (allowlist : Option (List String)) : String :=
  deniedCapabilities ++ match allowlist with
    | none => ""
    | some list => list.foldr (fun entry rest => writeEntry unicode entry ++ rest) ""

def writeDenyList (kind : IsolationKind) : String :=
  "\n  # ── Cross-capsule isolation ─────────────\n" ++
  (if kind = .browserOriginIsolated then
    "  # Browser: deny secrets access paths.\n" ++
    "  deny @\x7bHOME\x7d/.ssh/** rwxlkmix,\n" ++
    "  deny @\x7bHOME\x7d/.gnupg/** rwxlkmix,\n"
  else "") ++
  "  # ptrace across profiles is always denied.\n" ++
  "  deny ptrace,\n" ++
  "  deny /dev/mem rwxlkmix,\n" ++
  "  deny /dev/kmem rwxlkmix,\n" ++
  "  deny /dev/port rwxlkmix,\n"

def writeProfileClose : String := "\x7d\n"

/-! ## Truncation -/

/-- The characters of the first `bytes` bytes; `none` where the cut is inside a character. -/
def takeBytes : ℕ → List Char → Option (List Char)
  | 0, _ => some []
  | _, [] => some []
  | bytes, c :: rest => if c.utf8Size ≤ bytes then (takeBytes (bytes - c.utf8Size) rest).map (c :: ·) else none

/-- `String::truncate`; `none` is its panic. -/
def truncate (text : String) (newLen : ℕ) : Option String := (takeBytes newLen text.toList).map String.ofList

def truncationNote : String := "\n\n# ⚠ PROFILE TRUNCATED — exceeded max_profile_bytes\n"

structure AppArmorProfileGenerator where
  maxProfileBytes : ℕ

namespace AppArmorProfileGenerator

def truncateIfNeeded (self : AppArmorProfileGenerator) (buf : String) : Option String :=
  if self.maxProfileBytes < buf.utf8ByteSize then
    (truncate buf (self.maxProfileBytes - truncationNote.utf8ByteSize)).map (· ++ truncationNote)
  else some buf

end AppArmorProfileGenerator

/-- The text before truncation. -/
def profileText (unicode : Unicode) (sandbox : SandboxProfile) : String :=
  let strategy := strategyFor sandbox.isolationKind
  let profileName := s!"aios-{sandbox.profileId.value}"
  writeHeader profileName sandbox ++ writeIncludes ++ writeFlags strategy ++ writePathRules profileName ++
    writeNetworkRules sandbox.networkPosture strategy ++ writeGpuRules sandbox.gpuPolicy ++
    writeSyscallCaps unicode sandbox.syscallAllowlist ++ writeDenyList sandbox.isolationKind ++ writeProfileClose

/-- Whether a text is written at all. -/
def writesText (kind : IsolationKind) : Bool :=
  strategyFor kind != .rejected && strategyFor kind != .vmNoHostProfile

/-- `none` is a panic in the truncation; the code otherwise always answers with a profile. -/
def AppArmorProfileGenerator.generateProfile (self : AppArmorProfileGenerator) (unicode : Unicode)
    (sandbox : SandboxProfile) : Option GeneratedProfile :=
  if writesText sandbox.isolationKind then
    (self.truncateIfNeeded (profileText unicode sandbox)).map fun content =>
      ⟨s!"aios-{sandbox.profileId.value}", content, true, strategyFor sandbox.isolationKind⟩
  else some ⟨sandbox.profileId.value, "", false, strategyFor sandbox.isolationKind⟩

end Aios.Profile
