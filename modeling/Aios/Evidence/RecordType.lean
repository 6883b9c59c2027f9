import Aios.Lib.Distinct
import Aios.Lib.Hex
import Aios.Rust.Basic
import Mathlib.Data.List.Range

/-! # The closed taxonomies of the evidence log

Retention classes and record types with the tables of `record.rs`: wire names, retention classes and
wire ids. Record types are declared in the order of their wire ids. The zero value of the generated
`proto::RecordType` is the absence of a record type; its other values carry the same names and numbers.
-/

namespace Aios.Evidence

open Aios.Rust

inductive RetentionClass where
  | standard24M
  | extended60M
  | forever
deriving DecidableEq, Repr

def RetentionClass.asWireStr : RetentionClass → String
  | standard24M => "STANDARD_24M"
  | extended60M => "EXTENDED_60M"
  | forever => "FOREVER"

theorem RetentionClass.asWireStr_injective : Function.Injective RetentionClass.asWireStr := by
  intro first second same
  cases first <;> cases second <;> simp [asWireStr] at same ⊢

inductive RecordType where
  | actionReceived | translationCreated | routingDecision | policyDecision | approvalRequested
  | approvalGranted | approvalDenied | executionStarted | executionCompleted | verificationResult
  | rollbackCompleted | recoveryEvent | modelCall | chainCheckpoint | gcPass | quarantineEvent | conflictEvent
  | emergencyOverrideGrant | policyBundleLoad | segmentSealed | chainInconsistencyDetected | tamperDetected
  | systemAdminOperation | crossGroupAccessDenied | surfaceCreated | surfaceDestroyed
  | surfaceGpuBudgetExceeded | crossSurfaceReadDenied | crossZoneViolationAttempted | recoveryKindRejected
  | surfaceNeverRendered | uiTreeValidationRejected | uiTrustBearingAuthorshipRefused | uiRecoveryNodeDropped
  | themeLoaded | themeRejected | themeSwitched | themeInvariantViolated | kdeRendererStarted
  | kdeRendererDegraded | kdeFrameDropped | kdeLayerShellRejected | kdeKwinScriptLoaded | kdeKwinScriptRejected
  | kdeRecoveryShellStarted | kdeRecoveryKindRejectedAtRenderer | kdePlasmaThemeOverridden | kdeRenderFailed
  | kdeTokenFallbackUsed | webLanExposureGranted | webPublicExposureGranted | webRecoveryKindRejected
  | webPublicExposureFirewallRecorded | webRecoveryPageLoaded | webRecoveryPageExited | webRendererStarted
  | webRendererDegraded | webLanExposureActive | webExposureRevoked | webExtensionInterference
  | webFullscreenRequested | webThemeInjectionBlocked | webThemeFallbackUsed | webClientStorageQuotaBreach
  | webRendererClsBreach | webConstitutionalElementReregisterBlocked | gpuDeviceEnumerated
  | gpuDeviceDisconnected | gpuVkDeviceCreated | gpuVkDeviceDestroyed | gpuDmabufGranted | gpuDmabufDenied
  | gpuCapabilityDenied | gpuValidationDisabledRecovery | gpuValidationEnabledNormal | driverUnavailable
  | gpuBudgetExceeded | gpuBudgetDowngraded | iommuUnavailableDegraded | hostCapabilityLie | gpuBindingForgery
  | gpuDeviceForceReclaimed | vaultCapabilityIssued | vaultCapabilityRotated | vaultCapabilityRevoked
  | vaultOperation | vaultRawReveal | vaultCapabilityForgery | subjectKindRejectedForVault
  | vaultRecoverySnapshotLoaded | approvalDelivered | approvalExpired | approvalConsumed | approvalRevoked
  | approvalDeliveryFailed | overrideRequested | overrideQuorumReceived | overrideGranted | overrideConsumed
  | overrideDenied | overrideExpired | overrideRevoked | overrideReview | recoveryBootEntered
  | recoveryOperatorAuthenticated | recoveryOperationPerformed | recoveryTtlExpiredAutoReboot
  | recoveryBootExited | recoveryL5StartBlocked | recoveryNetworkLanEnabled | recoveryNetworkLanDisabled
  | recoveryForensicAttachPerformed | bootFailureAutoRecoveryTriggered | actionValidated | actionPolicyDecision
  | actionDispatched | executionSucceeded | executionFailed | executionVerificationFailed | rollbackAttempted
  | rollbackSucceeded | rollbackFailedRequiresOperator | adapterRegistered | adapterRegistrationRejected
  | adapterDegraded | adapterDeregistered | idempotencyKeyReplayDetected | bindingVoidedActionRevised
  | aiInteractiveQueueDowngrade | dryRunSimulationRecorded | experimentalAdapterLiveDispatch
  | adapterDeprecatedDispatch | networkPostureChanged | exposureRequested | exposureGranted | exposureDenied
  | exposureRevoked | exposureTerminatedTtlExpired | publicExposureHeartbeat | outboundGrantIssued
  | outboundGrantRevoked | outboundOutsideManifest | outboundDegradedToLoopbackAuto
  | allowlistFqdnFanoutExceeded | lanSubnetDriftDetected | lanPeerDriftDetected | aiDirectInternetDenied
  | externalModelCallBrokered | backendDegradedNftablesToIptables | rawSocketBypassAttempted
  | packageFetchStarted | packageVerified | packageVerificationFailed | packageApprovalRequested
  | packageInstalled | packageInstallFailed | packageQuarantined | packageUninstalled | packageDowngradeBlocked
  | capabilityLieDetected | trustChainBroken | trustChainTooDeep | manifestForged
  | mirrorHashMismatchBlacklisted | publisherKeyRotated | publisherDeplatformed | externalBridgePackageAdmitted
  | externalBridgeUpstreamSignatureFailed | aiosRootKeyRotated | kernelPipelineStarted | kernelBuildCompleted
  | kernelGateResult | kernelConverged | kernelDivergedRegression | kernelPromotedToA | kernelPromotedToB
  | kernelRollbackPerformed | kernelImageObserved | kernelImageDriftDetected | kernelRefreshScheduled
  | kernelRefreshPipelineFailed | pipelineDefinitionReplaced | appObserveStarted | appObserveCompleted
  | appObserveTimeout | appTranslateManifestProposed | appTranslateManifestApproved
  | appTranslateManifestRejected | appRecipeContributed | appRecipeImported | appManifestDeltaProposed
  | appManifestDeltaApproved | appHonestyClassViolation | appEcosystemRuntimeBreakoutAttempted
  | appAiDirectInstallAttemptedBlocked | appRecipeDeceptiveRejectedAtIngest | firstBootStarted
  | firstBootStageCompleted | firstBootFailed | vaultRootKeyGenerated | aiProviderModeSet
  | initialFirewallPostureSet | firstGroupRegistered | firstUserRegistered | recoveryOperatorRegistered
  | firstBootComplete | resetToFactoryInitiated | failureObserved | degradationLevelTransitioned
  | componentRestarted | componentRestartBudgetExhausted | circuitBreakerOpened | circuitBreakerClosed
  | haltedPendingOperator | timeDriftDetected | backendVersionMismatch | recoveryLoopDetected
  | receiptRedactionFailed | receiptIntegrityQuarantined | receiptLineageCycleDetected
  | receiptSequenceOutOfOrder | unitRegistered | unitStarted | unitHealthy | unitDegraded | unitFailed
  | unitStopped | unitRollbackTriggered | unitDependencyCycleDetected | graphEvaluated | transitionQueued
  | transitionStarted | transitionSucceeded | transitionFailed | abCanaryPromoted | abRollbackPerformed
  | dependencyCycleDetected | transitionConflict | resourceBudgetDenied | graphBlockedResource | graphConverged
  | adapterRegistrationRequested | adapterHealthy | adapterActionKindViolation | adapterCapabilityViolation
  | adapterHotReloaded | adapterDowngradeRejected | modelInvocationStarted | modelInvocationSucceeded
  | modelInvocationFailed | modelBackendDegraded | modelCircuitOpened | modelPromptInjectionDetected
  | modelResponseSignatureFailed | modelVaultDeny | modelNetworkDeny | modelRateLimited
  | modelBackendRegistered | modelBackendRetired | agentRegistered | agentRetired | agentInterruptedByRecovery
  | agentProposalEmitted | agentProposalApproved | agentProposalDenied | agentPlanBundledApproved
  | agentPlanAbandoned | agentMemoryWrite | agentMemoryRead | agentMemoryCrossUserDenied
  | agentInterMessageSent | agentInterMessageRejected | agentSelfGradingBlocked | agentDirectFsWriteBlocked
  | agentCrossGroupCoordinationBlocked | agentBackendDegraded | agentPromptInjectionDetected
  | packageObjectCreated | packageObjectUpdated | packageObjectRolledBack | packageObjectQuarantined
  | packagePrivateStateInitialized | packagePrivateStateCorruptDetected | packageVersionDowngradeBlocked
  | packageObjectRetired | packageObjectVerificationFailed | packageRecoveryRestorePerformed | appLaunchStarted
  | appLaunchSucceeded | appLaunchFailed | winePrefixCreated | winePrefixBreakoutAttempted
  | waydroidContainerStarted | waydroidEscapeAttempted | kvmVmBooted | kvmVmTerminated
  | orchestrationKindMismatchRejected | profileContributed | profileRatingAggregated | profileOutlierDetected
  | profileRecommendationShown | profileImportedFromUpstream | profileReputationFarmSuspected
  | profileVisibilityDowngraded | profileRetired | cliRenderStarted | cliRenderFailed | cliNodeKindUnsupported
  | cliRecoveryKindRejected | cliAutoConfirmRejected | cliAnsiInjectionBlocked | cliDegradedNoTty
  | cliScriptingModeInvoked | cliOperatorAuthenticated | cliTrustIndicatorReordered | hardwareGraphRebuilt
  | deviceDetected | deviceDriverBound | deviceDriverRejected | deviceQuarantined | deviceDisconnected
  | removableDeviceRequest | removableDeviceApproved | removableDeviceDenied | aiRemovableDeviceBlocked
  | hardwareGraphDriftDetected | firmwareVersionDowngradeBlocked | iommuDmaProtectionDegraded
  | outOfTreeDriverBlocked | dnsQueryPerformed | dnsResolverRebindingDetected | dnsPlainBlocked
  | dnsResolverSubstitutionRejected | vpnTunnelEstablished | vpnTunnelFailed | vpnProviderKeyRotated
  | vpnProviderKeyForgeryRejected | mdnsRequestReceived | mdnsBroadcastDenied | mdnsPoisoningDetected
  | resolverBackendDegraded | firmwareUpdateRequested | firmwareVerificationPassed | firmwareVerificationFailed
  | firmwareDowngradeBlocked | firmwareUnsignedRejected | firmwareVendorDeplatformed | firmwareApplied
  | firmwareApplyFailed | firmwareRollbackPerformed | biosUefiUpdateDeferred | firmwareTamperDetected
  | operatorLocalFirmwareInstalled | telemetryPipelineStarted | telemetryCardinalityBreach
  | telemetryRedactionFailed | telemetryBackendUnavailable | telemetryBackendDegraded
  | telemetryLogInjectionDetected | telemetryRetentionTierPromoted | telemetrySamplingRateAdjusted
  | telemetryEbpfProbeLoaded | telemetryEbpfProbeRejected | publisherOnboardingApplicationSubmitted
  | publisherOnboardingIdentityVerified | publisherOnboardingApproved | publisherOnboardingRejected
  | publisherOnboardingDeplatformed | capabilityReviewRequested | capabilityReviewApproved
  | capabilityReviewDeceptiveRejected | listingPublished | listingVisibilityDowngraded
  | listingVsManifestMismatch | marketplaceReviewBypassAttempted | bridgeFetchStarted | bridgeFetchCompleted
  | bridgeUpstreamSignatureVerified | bridgeUpstreamSignatureFailed | bridgeRepackagedWithAiosKey
  | bridgeDeceptiveRejected | bridgeRateLimitExceeded | bridgeMetadataImported | bridgeRecipeImported
  | bridgeBlacklisted | bridgeDegradedUpstreamUnavailable | bridgeTrustClassDeceptionDetected
  | statusTransition | artifactRecorded | buildPassed | testPassed | e2ePassed | recoveryRehearsalPassed
  | releaseGatePassed | operationalHealthy | invariantBundleLoaded | webExposureGranted | identityBundleLoaded
  | groupRegistered | receiptForgeryDetected | receiptPayloadDuplicateObserved | receiptLineageDepthExceeded
  | receiptOrphanActionRefDetected | invariantBundleRejected | policyBundleRejected | identityBundleRejected
  | capabilityBundleRejected | sandboxBundleRejected | failureObservedRateLimited
  | graphEvaluationBudgetExceeded | transitionBudgetExceeded | adapterLifecycleIllegalTransition
  | publisherTrustLevelObserved | publisherKeyCollision | marketplaceReviewBudgetExceeded
  | bridgeOperatorConsentGranted | bridgeDeferredNeedsReview | bridgeMetadataDriftDetected
  | bridgeBlacklistLifted | hardwareSubstrateAcceptOutsideRecoveryBlocked | firstBootOperation
  | vaultBootstrapKeyUsed | bootstrapKeyUseAfterExhaustBlocked | vaultRekeyed | hardwareGraphDriftAccepted
  | vaultTpmResealRequired | agentLifecycleTransitioned | compactionApprovalRequired
deriving DecidableEq

namespace RecordType

variable (recordType : RecordType)

def asWireStr : RecordType → String
  | .actionReceived => "ACTION_RECEIVED"
  | .translationCreated => "TRANSLATION_CREATED"
  | .routingDecision => "ROUTING_DECISION"
  | .policyDecision => "POLICY_DECISION"
  | .approvalRequested => "APPROVAL_REQUESTED"
  | .approvalGranted => "APPROVAL_GRANTED"
  | .approvalDenied => "APPROVAL_DENIED"
  | .executionStarted => "EXECUTION_STARTED"
  | .executionCompleted => "EXECUTION_COMPLETED"
  | .verificationResult => "VERIFICATION_RESULT"
  | .rollbackCompleted => "ROLLBACK_COMPLETED"
  | .recoveryEvent => "RECOVERY_EVENT"
  | .modelCall => "MODEL_CALL"
  | .chainCheckpoint => "CHAIN_CHECKPOINT"
  | .gcPass => "GC_PASS"
  | .quarantineEvent => "QUARANTINE_EVENT"
  | .conflictEvent => "CONFLICT_EVENT"
  | .emergencyOverrideGrant => "EMERGENCY_OVERRIDE_GRANT"
  | .policyBundleLoad => "POLICY_BUNDLE_LOAD"
  | .segmentSealed => "SEGMENT_SEALED"
  | .chainInconsistencyDetected => "CHAIN_INCONSISTENCY_DETECTED"
  | .tamperDetected => "TAMPER_DETECTED"
  | .systemAdminOperation => "SYSTEM_ADMIN_OPERATION"
  | .crossGroupAccessDenied => "CROSS_GROUP_ACCESS_DENIED"
  | .surfaceCreated => "SURFACE_CREATED"
  | .surfaceDestroyed => "SURFACE_DESTROYED"
  | .surfaceGpuBudgetExceeded => "SURFACE_GPU_BUDGET_EXCEEDED"
  | .crossSurfaceReadDenied => "CROSS_SURFACE_READ_DENIED"
  | .crossZoneViolationAttempted => "CROSS_ZONE_VIOLATION_ATTEMPTED"
  | .recoveryKindRejected => "RECOVERY_KIND_REJECTED"
  | .surfaceNeverRendered => "SURFACE_NEVER_RENDERED"
  | .uiTreeValidationRejected => "UI_TREE_VALIDATION_REJECTED"
  | .uiTrustBearingAuthorshipRefused => "UI_TRUST_BEARING_AUTHORSHIP_REFUSED"
  | .uiRecoveryNodeDropped => "UI_RECOVERY_NODE_DROPPED"
  | .themeLoaded => "THEME_LOADED"
  | .themeRejected => "THEME_REJECTED"
  | .themeSwitched => "THEME_SWITCHED"
  | .themeInvariantViolated => "THEME_INVARIANT_VIOLATED"
  | .kdeRendererStarted => "KDE_RENDERER_STARTED"
  | .kdeRendererDegraded => "KDE_RENDERER_DEGRADED"
  | .kdeFrameDropped => "KDE_FRAME_DROPPED"
  | .kdeLayerShellRejected => "KDE_LAYER_SHELL_REJECTED"
  | .kdeKwinScriptLoaded => "KDE_KWIN_SCRIPT_LOADED"
  | .kdeKwinScriptRejected => "KDE_KWIN_SCRIPT_REJECTED"
  | .kdeRecoveryShellStarted => "KDE_RECOVERY_SHELL_STARTED"
  | .kdeRecoveryKindRejectedAtRenderer => "KDE_RECOVERY_KIND_REJECTED_AT_RENDERER"
  | .kdePlasmaThemeOverridden => "KDE_PLASMA_THEME_OVERRIDDEN"
  | .kdeRenderFailed => "KDE_RENDER_FAILED"
  | .kdeTokenFallbackUsed => "KDE_TOKEN_FALLBACK_USED"
  | .webLanExposureGranted => "WEB_LAN_EXPOSURE_GRANTED"
  | .webPublicExposureGranted => "WEB_PUBLIC_EXPOSURE_GRANTED"
  | .webRecoveryKindRejected => "WEB_RECOVERY_KIND_REJECTED"
  | .webPublicExposureFirewallRecorded => "WEB_PUBLIC_EXPOSURE_FIREWALL_RECORDED"
  | .webRecoveryPageLoaded => "WEB_RECOVERY_PAGE_LOADED"
  | .webRecoveryPageExited => "WEB_RECOVERY_PAGE_EXITED"
  | .webRendererStarted => "WEB_RENDERER_STARTED"
  | .webRendererDegraded => "WEB_RENDERER_DEGRADED"
  | .webLanExposureActive => "WEB_LAN_EXPOSURE_ACTIVE"
  | .webExposureRevoked => "WEB_EXPOSURE_REVOKED"
  | .webExtensionInterference => "WEB_EXTENSION_INTERFERENCE"
  | .webFullscreenRequested => "WEB_FULLSCREEN_REQUESTED"
  | .webThemeInjectionBlocked => "WEB_THEME_INJECTION_BLOCKED"
  | .webThemeFallbackUsed => "WEB_THEME_FALLBACK_USED"
  | .webClientStorageQuotaBreach => "WEB_CLIENT_STORAGE_QUOTA_BREACH"
  | .webRendererClsBreach => "WEB_RENDERER_CLS_BREACH"
  | .webConstitutionalElementReregisterBlocked => "WEB_CONSTITUTIONAL_ELEMENT_REREGISTER_BLOCKED"
  | .gpuDeviceEnumerated => "GPU_DEVICE_ENUMERATED"
  | .gpuDeviceDisconnected => "GPU_DEVICE_DISCONNECTED"
  | .gpuVkDeviceCreated => "GPU_VK_DEVICE_CREATED"
  | .gpuVkDeviceDestroyed => "GPU_VK_DEVICE_DESTROYED"
  | .gpuDmabufGranted => "GPU_DMABUF_GRANTED"
  | .gpuDmabufDenied => "GPU_DMABUF_DENIED"
  | .gpuCapabilityDenied => "GPU_CAPABILITY_DENIED"
  | .gpuValidationDisabledRecovery => "GPU_VALIDATION_DISABLED_RECOVERY"
  | .gpuValidationEnabledNormal => "GPU_VALIDATION_ENABLED_NORMAL"
  | .driverUnavailable => "DRIVER_UNAVAILABLE"
  | .gpuBudgetExceeded => "GPU_BUDGET_EXCEEDED"
  | .gpuBudgetDowngraded => "GPU_BUDGET_DOWNGRADED"
  | .iommuUnavailableDegraded => "IOMMU_UNAVAILABLE_DEGRADED"
  | .hostCapabilityLie => "HOST_CAPABILITY_LIE"
  | .gpuBindingForgery => "GPU_BINDING_FORGERY"
  | .gpuDeviceForceReclaimed => "GPU_DEVICE_FORCE_RECLAIMED"
  | .vaultCapabilityIssued => "VAULT_CAPABILITY_ISSUED"
  | .vaultCapabilityRotated => "VAULT_CAPABILITY_ROTATED"
  | .vaultCapabilityRevoked => "VAULT_CAPABILITY_REVOKED"
  | .vaultOperation => "VAULT_OPERATION"
  | .vaultRawReveal => "VAULT_RAW_REVEAL"
  | .vaultCapabilityForgery => "VAULT_CAPABILITY_FORGERY"
  | .subjectKindRejectedForVault => "SUBJECT_KIND_REJECTED_FOR_VAULT"
  | .vaultRecoverySnapshotLoaded => "VAULT_RECOVERY_SNAPSHOT_LOADED"
  | .approvalDelivered => "APPROVAL_DELIVERED"
  | .approvalExpired => "APPROVAL_EXPIRED"
  | .approvalConsumed => "APPROVAL_CONSUMED"
  | .approvalRevoked => "APPROVAL_REVOKED"
  | .approvalDeliveryFailed => "APPROVAL_DELIVERY_FAILED"
  | .overrideRequested => "OVERRIDE_REQUESTED"
  | .overrideQuorumReceived => "OVERRIDE_QUORUM_RECEIVED"
  | .overrideGranted => "OVERRIDE_GRANTED"
  | .overrideConsumed => "OVERRIDE_CONSUMED"
  | .overrideDenied => "OVERRIDE_DENIED"
  | .overrideExpired => "OVERRIDE_EXPIRED"
  | .overrideRevoked => "OVERRIDE_REVOKED"
  | .overrideReview => "OVERRIDE_REVIEW"
  | .recoveryBootEntered => "RECOVERY_BOOT_ENTERED"
  | .recoveryOperatorAuthenticated => "RECOVERY_OPERATOR_AUTHENTICATED"
  | .recoveryOperationPerformed => "RECOVERY_OPERATION_PERFORMED"
  | .recoveryTtlExpiredAutoReboot => "RECOVERY_TTL_EXPIRED_AUTO_REBOOT"
  | .recoveryBootExited => "RECOVERY_BOOT_EXITED"
  | .recoveryL5StartBlocked => "RECOVERY_L5_START_BLOCKED"
  | .recoveryNetworkLanEnabled => "RECOVERY_NETWORK_LAN_ENABLED"
  | .recoveryNetworkLanDisabled => "RECOVERY_NETWORK_LAN_DISABLED"
  | .recoveryForensicAttachPerformed => "RECOVERY_FORENSIC_ATTACH_PERFORMED"
  | .bootFailureAutoRecoveryTriggered => "BOOT_FAILURE_AUTO_RECOVERY_TRIGGERED"
  | .actionValidated => "ACTION_VALIDATED"
  | .actionPolicyDecision => "ACTION_POLICY_DECISION"
  | .actionDispatched => "ACTION_DISPATCHED"
  | .executionSucceeded => "EXECUTION_SUCCEEDED"
  | .executionFailed => "EXECUTION_FAILED"
  | .executionVerificationFailed => "EXECUTION_VERIFICATION_FAILED"
  | .rollbackAttempted => "ROLLBACK_ATTEMPTED"
  | .rollbackSucceeded => "ROLLBACK_SUCCEEDED"
  | .rollbackFailedRequiresOperator => "ROLLBACK_FAILED_REQUIRES_OPERATOR"
  | .adapterRegistered => "ADAPTER_REGISTERED"
  | .adapterRegistrationRejected => "ADAPTER_REGISTRATION_REJECTED"
  | .adapterDegraded => "ADAPTER_DEGRADED"
  | .adapterDeregistered => "ADAPTER_DEREGISTERED"
  | .idempotencyKeyReplayDetected => "IDEMPOTENCY_KEY_REPLAY_DETECTED"
  | .bindingVoidedActionRevised => "BINDING_VOIDED_ACTION_REVISED"
  | .aiInteractiveQueueDowngrade => "AI_INTERACTIVE_QUEUE_DOWNGRADE"
  | .dryRunSimulationRecorded => "DRY_RUN_SIMULATION_RECORDED"
  | .experimentalAdapterLiveDispatch => "EXPERIMENTAL_ADAPTER_LIVE_DISPATCH"
  | .adapterDeprecatedDispatch => "ADAPTER_DEPRECATED_DISPATCH"
  | .networkPostureChanged => "NETWORK_POSTURE_CHANGED"
  | .exposureRequested => "EXPOSURE_REQUESTED"
  | .exposureGranted => "EXPOSURE_GRANTED"
  | .exposureDenied => "EXPOSURE_DENIED"
  | .exposureRevoked => "EXPOSURE_REVOKED"
  | .exposureTerminatedTtlExpired => "EXPOSURE_TERMINATED_TTL_EXPIRED"
  | .publicExposureHeartbeat => "PUBLIC_EXPOSURE_HEARTBEAT"
  | .outboundGrantIssued => "OUTBOUND_GRANT_ISSUED"
  | .outboundGrantRevoked => "OUTBOUND_GRANT_REVOKED"
  | .outboundOutsideManifest => "OUTBOUND_OUTSIDE_MANIFEST"
  | .outboundDegradedToLoopbackAuto => "OUTBOUND_DEGRADED_TO_LOOPBACK_AUTO"
  | .allowlistFqdnFanoutExceeded => "ALLOWLIST_FQDN_FANOUT_EXCEEDED"
  | .lanSubnetDriftDetected => "LAN_SUBNET_DRIFT_DETECTED"
  | .lanPeerDriftDetected => "LAN_PEER_DRIFT_DETECTED"
  | .aiDirectInternetDenied => "AI_DIRECT_INTERNET_DENIED"
  | .externalModelCallBrokered => "EXTERNAL_MODEL_CALL_BROKERED"
  | .backendDegradedNftablesToIptables => "BACKEND_DEGRADED_NFTABLES_TO_IPTABLES"
  | .rawSocketBypassAttempted => "RAW_SOCKET_BYPASS_ATTEMPTED"
  | .packageFetchStarted => "PACKAGE_FETCH_STARTED"
  | .packageVerified => "PACKAGE_VERIFIED"
  | .packageVerificationFailed => "PACKAGE_VERIFICATION_FAILED"
  | .packageApprovalRequested => "PACKAGE_APPROVAL_REQUESTED"
  | .packageInstalled => "PACKAGE_INSTALLED"
  | .packageInstallFailed => "PACKAGE_INSTALL_FAILED"
  | .packageQuarantined => "PACKAGE_QUARANTINED"
  | .packageUninstalled => "PACKAGE_UNINSTALLED"
  | .packageDowngradeBlocked => "PACKAGE_DOWNGRADE_BLOCKED"
  | .capabilityLieDetected => "CAPABILITY_LIE_DETECTED"
  | .trustChainBroken => "TRUST_CHAIN_BROKEN"
  | .trustChainTooDeep => "TRUST_CHAIN_TOO_DEEP"
  | .manifestForged => "MANIFEST_FORGED"
  | .mirrorHashMismatchBlacklisted => "MIRROR_HASH_MISMATCH_BLACKLISTED"
  | .publisherKeyRotated => "PUBLISHER_KEY_ROTATED"
  | .publisherDeplatformed => "PUBLISHER_DEPLATFORMED"
  | .externalBridgePackageAdmitted => "EXTERNAL_BRIDGE_PACKAGE_ADMITTED"
  | .externalBridgeUpstreamSignatureFailed => "EXTERNAL_BRIDGE_UPSTREAM_SIGNATURE_FAILED"
  | .aiosRootKeyRotated => "AIOS_ROOT_KEY_ROTATED"
  | .kernelPipelineStarted => "KERNEL_PIPELINE_STARTED"
  | .kernelBuildCompleted => "KERNEL_BUILD_COMPLETED"
  | .kernelGateResult => "KERNEL_GATE_RESULT"
  | .kernelConverged => "KERNEL_CONVERGED"
  | .kernelDivergedRegression => "KERNEL_DIVERGED_REGRESSION"
  | .kernelPromotedToA => "KERNEL_PROMOTED_TO_A"
  | .kernelPromotedToB => "KERNEL_PROMOTED_TO_B"
  | .kernelRollbackPerformed => "KERNEL_ROLLBACK_PERFORMED"
  | .kernelImageObserved => "KERNEL_IMAGE_OBSERVED"
  | .kernelImageDriftDetected => "KERNEL_IMAGE_DRIFT_DETECTED"
  | .kernelRefreshScheduled => "KERNEL_REFRESH_SCHEDULED"
  | .kernelRefreshPipelineFailed => "KERNEL_REFRESH_PIPELINE_FAILED"
  | .pipelineDefinitionReplaced => "PIPELINE_DEFINITION_REPLACED"
  | .appObserveStarted => "APP_OBSERVE_STARTED"
  | .appObserveCompleted => "APP_OBSERVE_COMPLETED"
  | .appObserveTimeout => "APP_OBSERVE_TIMEOUT"
  | .appTranslateManifestProposed => "APP_TRANSLATE_MANIFEST_PROPOSED"
  | .appTranslateManifestApproved => "APP_TRANSLATE_MANIFEST_APPROVED"
  | .appTranslateManifestRejected => "APP_TRANSLATE_MANIFEST_REJECTED"
  | .appRecipeContributed => "APP_RECIPE_CONTRIBUTED"
  | .appRecipeImported => "APP_RECIPE_IMPORTED"
  | .appManifestDeltaProposed => "APP_MANIFEST_DELTA_PROPOSED"
  | .appManifestDeltaApproved => "APP_MANIFEST_DELTA_APPROVED"
  | .appHonestyClassViolation => "APP_HONESTY_CLASS_VIOLATION"
  | .appEcosystemRuntimeBreakoutAttempted => "APP_ECOSYSTEM_RUNTIME_BREAKOUT_ATTEMPTED"
  | .appAiDirectInstallAttemptedBlocked => "APP_AI_DIRECT_INSTALL_ATTEMPTED_BLOCKED"
  | .appRecipeDeceptiveRejectedAtIngest => "APP_RECIPE_DECEPTIVE_REJECTED_AT_INGEST"
  | .firstBootStarted => "FIRST_BOOT_STARTED"
  | .firstBootStageCompleted => "FIRST_BOOT_STAGE_COMPLETED"
  | .firstBootFailed => "FIRST_BOOT_FAILED"
  | .vaultRootKeyGenerated => "VAULT_ROOT_KEY_GENERATED"
  | .aiProviderModeSet => "AI_PROVIDER_MODE_SET"
  | .initialFirewallPostureSet => "INITIAL_FIREWALL_POSTURE_SET"
  | .firstGroupRegistered => "FIRST_GROUP_REGISTERED"
  | .firstUserRegistered => "FIRST_USER_REGISTERED"
  | .recoveryOperatorRegistered => "RECOVERY_OPERATOR_REGISTERED"
  | .firstBootComplete => "FIRST_BOOT_COMPLETE"
  | .resetToFactoryInitiated => "RESET_TO_FACTORY_INITIATED"
  | .failureObserved => "FAILURE_OBSERVED"
  | .degradationLevelTransitioned => "DEGRADATION_LEVEL_TRANSITIONED"
  | .componentRestarted => "COMPONENT_RESTARTED"
  | .componentRestartBudgetExhausted => "COMPONENT_RESTART_BUDGET_EXHAUSTED"
  | .circuitBreakerOpened => "CIRCUIT_BREAKER_OPENED"
  | .circuitBreakerClosed => "CIRCUIT_BREAKER_CLOSED"
  | .haltedPendingOperator => "HALTED_PENDING_OPERATOR"
  | .timeDriftDetected => "TIME_DRIFT_DETECTED"
  | .backendVersionMismatch => "BACKEND_VERSION_MISMATCH"
  | .recoveryLoopDetected => "RECOVERY_LOOP_DETECTED"
  | .receiptRedactionFailed => "RECEIPT_REDACTION_FAILED"
  | .receiptIntegrityQuarantined => "RECEIPT_INTEGRITY_QUARANTINED"
  | .receiptLineageCycleDetected => "RECEIPT_LINEAGE_CYCLE_DETECTED"
  | .receiptSequenceOutOfOrder => "RECEIPT_SEQUENCE_OUT_OF_ORDER"
  | .unitRegistered => "UNIT_REGISTERED"
  | .unitStarted => "UNIT_STARTED"
  | .unitHealthy => "UNIT_HEALTHY"
  | .unitDegraded => "UNIT_DEGRADED"
  | .unitFailed => "UNIT_FAILED"
  | .unitStopped => "UNIT_STOPPED"
  | .unitRollbackTriggered => "UNIT_ROLLBACK_TRIGGERED"
  | .unitDependencyCycleDetected => "UNIT_DEPENDENCY_CYCLE_DETECTED"
  | .graphEvaluated => "GRAPH_EVALUATED"
  | .transitionQueued => "TRANSITION_QUEUED"
  | .transitionStarted => "TRANSITION_STARTED"
  | .transitionSucceeded => "TRANSITION_SUCCEEDED"
  | .transitionFailed => "TRANSITION_FAILED"
  | .abCanaryPromoted => "AB_CANARY_PROMOTED"
  | .abRollbackPerformed => "AB_ROLLBACK_PERFORMED"
  | .dependencyCycleDetected => "DEPENDENCY_CYCLE_DETECTED"
  | .transitionConflict => "TRANSITION_CONFLICT"
  | .resourceBudgetDenied => "RESOURCE_BUDGET_DENIED"
  | .graphBlockedResource => "GRAPH_BLOCKED_RESOURCE"
  | .graphConverged => "GRAPH_CONVERGED"
  | .adapterRegistrationRequested => "ADAPTER_REGISTRATION_REQUESTED"
  | .adapterHealthy => "ADAPTER_HEALTHY"
  | .adapterActionKindViolation => "ADAPTER_ACTION_KIND_VIOLATION"
  | .adapterCapabilityViolation => "ADAPTER_CAPABILITY_VIOLATION"
  | .adapterHotReloaded => "ADAPTER_HOT_RELOADED"
  | .adapterDowngradeRejected => "ADAPTER_DOWNGRADE_REJECTED"
  | .modelInvocationStarted => "MODEL_INVOCATION_STARTED"
  | .modelInvocationSucceeded => "MODEL_INVOCATION_SUCCEEDED"
  | .modelInvocationFailed => "MODEL_INVOCATION_FAILED"
  | .modelBackendDegraded => "MODEL_BACKEND_DEGRADED"
  | .modelCircuitOpened => "MODEL_CIRCUIT_OPENED"
  | .modelPromptInjectionDetected => "MODEL_PROMPT_INJECTION_DETECTED"
  | .modelResponseSignatureFailed => "MODEL_RESPONSE_SIGNATURE_FAILED"
  | .modelVaultDeny => "MODEL_VAULT_DENY"
  | .modelNetworkDeny => "MODEL_NETWORK_DENY"
  | .modelRateLimited => "MODEL_RATE_LIMITED"
  | .modelBackendRegistered => "MODEL_BACKEND_REGISTERED"
  | .modelBackendRetired => "MODEL_BACKEND_RETIRED"
  | .agentRegistered => "AGENT_REGISTERED"
  | .agentRetired => "AGENT_RETIRED"
  | .agentInterruptedByRecovery => "AGENT_INTERRUPTED_BY_RECOVERY"
  | .agentProposalEmitted => "AGENT_PROPOSAL_EMITTED"
  | .agentProposalApproved => "AGENT_PROPOSAL_APPROVED"
  | .agentProposalDenied => "AGENT_PROPOSAL_DENIED"
  | .agentPlanBundledApproved => "AGENT_PLAN_BUNDLED_APPROVED"
  | .agentPlanAbandoned => "AGENT_PLAN_ABANDONED"
  | .agentMemoryWrite => "AGENT_MEMORY_WRITE"
  | .agentMemoryRead => "AGENT_MEMORY_READ"
  | .agentMemoryCrossUserDenied => "AGENT_MEMORY_CROSS_USER_DENIED"
  | .agentInterMessageSent => "AGENT_INTER_MESSAGE_SENT"
  | .agentInterMessageRejected => "AGENT_INTER_MESSAGE_REJECTED"
  | .agentSelfGradingBlocked => "AGENT_SELF_GRADING_BLOCKED"
  | .agentDirectFsWriteBlocked => "AGENT_DIRECT_FS_WRITE_BLOCKED"
  | .agentCrossGroupCoordinationBlocked => "AGENT_CROSS_GROUP_COORDINATION_BLOCKED"
  | .agentBackendDegraded => "AGENT_BACKEND_DEGRADED"
  | .agentPromptInjectionDetected => "AGENT_PROMPT_INJECTION_DETECTED"
  | .packageObjectCreated => "PACKAGE_OBJECT_CREATED"
  | .packageObjectUpdated => "PACKAGE_OBJECT_UPDATED"
  | .packageObjectRolledBack => "PACKAGE_OBJECT_ROLLED_BACK"
  | .packageObjectQuarantined => "PACKAGE_OBJECT_QUARANTINED"
  | .packagePrivateStateInitialized => "PACKAGE_PRIVATE_STATE_INITIALIZED"
  | .packagePrivateStateCorruptDetected => "PACKAGE_PRIVATE_STATE_CORRUPT_DETECTED"
  | .packageVersionDowngradeBlocked => "PACKAGE_VERSION_DOWNGRADE_BLOCKED"
  | .packageObjectRetired => "PACKAGE_OBJECT_RETIRED"
  | .packageObjectVerificationFailed => "PACKAGE_OBJECT_VERIFICATION_FAILED"
  | .packageRecoveryRestorePerformed => "PACKAGE_RECOVERY_RESTORE_PERFORMED"
  | .appLaunchStarted => "APP_LAUNCH_STARTED"
  | .appLaunchSucceeded => "APP_LAUNCH_SUCCEEDED"
  | .appLaunchFailed => "APP_LAUNCH_FAILED"
  | .winePrefixCreated => "WINE_PREFIX_CREATED"
  | .winePrefixBreakoutAttempted => "WINE_PREFIX_BREAKOUT_ATTEMPTED"
  | .waydroidContainerStarted => "WAYDROID_CONTAINER_STARTED"
  | .waydroidEscapeAttempted => "WAYDROID_ESCAPE_ATTEMPTED"
  | .kvmVmBooted => "KVM_VM_BOOTED"
  | .kvmVmTerminated => "KVM_VM_TERMINATED"
  | .orchestrationKindMismatchRejected => "ORCHESTRATION_KIND_MISMATCH_REJECTED"
  | .profileContributed => "PROFILE_CONTRIBUTED"
  | .profileRatingAggregated => "PROFILE_RATING_AGGREGATED"
  | .profileOutlierDetected => "PROFILE_OUTLIER_DETECTED"
  | .profileRecommendationShown => "PROFILE_RECOMMENDATION_SHOWN"
  | .profileImportedFromUpstream => "PROFILE_IMPORTED_FROM_UPSTREAM"
  | .profileReputationFarmSuspected => "PROFILE_REPUTATION_FARM_SUSPECTED"
  | .profileVisibilityDowngraded => "PROFILE_VISIBILITY_DOWNGRADED"
  | .profileRetired => "PROFILE_RETIRED"
  | .cliRenderStarted => "CLI_RENDER_STARTED"
  | .cliRenderFailed => "CLI_RENDER_FAILED"
  | .cliNodeKindUnsupported => "CLI_NODE_KIND_UNSUPPORTED"
  | .cliRecoveryKindRejected => "CLI_RECOVERY_KIND_REJECTED"
  | .cliAutoConfirmRejected => "CLI_AUTO_CONFIRM_REJECTED"
  | .cliAnsiInjectionBlocked => "CLI_ANSI_INJECTION_BLOCKED"
  | .cliDegradedNoTty => "CLI_DEGRADED_NO_TTY"
  | .cliScriptingModeInvoked => "CLI_SCRIPTING_MODE_INVOKED"
  | .cliOperatorAuthenticated => "CLI_OPERATOR_AUTHENTICATED"
  | .cliTrustIndicatorReordered => "CLI_TRUST_INDICATOR_REORDERED"
  | .hardwareGraphRebuilt => "HARDWARE_GRAPH_REBUILT"
  | .deviceDetected => "DEVICE_DETECTED"
  | .deviceDriverBound => "DEVICE_DRIVER_BOUND"
  | .deviceDriverRejected => "DEVICE_DRIVER_REJECTED"
  | .deviceQuarantined => "DEVICE_QUARANTINED"
  | .deviceDisconnected => "DEVICE_DISCONNECTED"
  | .removableDeviceRequest => "REMOVABLE_DEVICE_REQUEST"
  | .removableDeviceApproved => "REMOVABLE_DEVICE_APPROVED"
  | .removableDeviceDenied => "REMOVABLE_DEVICE_DENIED"
  | .aiRemovableDeviceBlocked => "AI_REMOVABLE_DEVICE_BLOCKED"
  | .hardwareGraphDriftDetected => "HARDWARE_GRAPH_DRIFT_DETECTED"
  | .firmwareVersionDowngradeBlocked => "FIRMWARE_VERSION_DOWNGRADE_BLOCKED"
  | .iommuDmaProtectionDegraded => "IOMMU_DMA_PROTECTION_DEGRADED"
  | .outOfTreeDriverBlocked => "OUT_OF_TREE_DRIVER_BLOCKED"
  | .dnsQueryPerformed => "DNS_QUERY_PERFORMED"
  | .dnsResolverRebindingDetected => "DNS_RESOLVER_REBINDING_DETECTED"
  | .dnsPlainBlocked => "DNS_PLAIN_BLOCKED"
  | .dnsResolverSubstitutionRejected => "DNS_RESOLVER_SUBSTITUTION_REJECTED"
  | .vpnTunnelEstablished => "VPN_TUNNEL_ESTABLISHED"
  | .vpnTunnelFailed => "VPN_TUNNEL_FAILED"
  | .vpnProviderKeyRotated => "VPN_PROVIDER_KEY_ROTATED"
  | .vpnProviderKeyForgeryRejected => "VPN_PROVIDER_KEY_FORGERY_REJECTED"
  | .mdnsRequestReceived => "MDNS_REQUEST_RECEIVED"
  | .mdnsBroadcastDenied => "MDNS_BROADCAST_DENIED"
  | .mdnsPoisoningDetected => "MDNS_POISONING_DETECTED"
  | .resolverBackendDegraded => "RESOLVER_BACKEND_DEGRADED"
  | .firmwareUpdateRequested => "FIRMWARE_UPDATE_REQUESTED"
  | .firmwareVerificationPassed => "FIRMWARE_VERIFICATION_PASSED"
  | .firmwareVerificationFailed => "FIRMWARE_VERIFICATION_FAILED"
  | .firmwareDowngradeBlocked => "FIRMWARE_DOWNGRADE_BLOCKED"
  | .firmwareUnsignedRejected => "FIRMWARE_UNSIGNED_REJECTED"
  | .firmwareVendorDeplatformed => "FIRMWARE_VENDOR_DEPLATFORMED"
  | .firmwareApplied => "FIRMWARE_APPLIED"
  | .firmwareApplyFailed => "FIRMWARE_APPLY_FAILED"
  | .firmwareRollbackPerformed => "FIRMWARE_ROLLBACK_PERFORMED"
  | .biosUefiUpdateDeferred => "BIOS_UEFI_UPDATE_DEFERRED"
  | .firmwareTamperDetected => "FIRMWARE_TAMPER_DETECTED"
  | .operatorLocalFirmwareInstalled => "OPERATOR_LOCAL_FIRMWARE_INSTALLED"
  | .telemetryPipelineStarted => "TELEMETRY_PIPELINE_STARTED"
  | .telemetryCardinalityBreach => "TELEMETRY_CARDINALITY_BREACH"
  | .telemetryRedactionFailed => "TELEMETRY_REDACTION_FAILED"
  | .telemetryBackendUnavailable => "TELEMETRY_BACKEND_UNAVAILABLE"
  | .telemetryBackendDegraded => "TELEMETRY_BACKEND_DEGRADED"
  | .telemetryLogInjectionDetected => "TELEMETRY_LOG_INJECTION_DETECTED"
  | .telemetryRetentionTierPromoted => "TELEMETRY_RETENTION_TIER_PROMOTED"
  | .telemetrySamplingRateAdjusted => "TELEMETRY_SAMPLING_RATE_ADJUSTED"
  | .telemetryEbpfProbeLoaded => "TELEMETRY_EBPF_PROBE_LOADED"
  | .telemetryEbpfProbeRejected => "TELEMETRY_EBPF_PROBE_REJECTED"
  | .publisherOnboardingApplicationSubmitted => "PUBLISHER_ONBOARDING_APPLICATION_SUBMITTED"
  | .publisherOnboardingIdentityVerified => "PUBLISHER_ONBOARDING_IDENTITY_VERIFIED"
  | .publisherOnboardingApproved => "PUBLISHER_ONBOARDING_APPROVED"
  | .publisherOnboardingRejected => "PUBLISHER_ONBOARDING_REJECTED"
  | .publisherOnboardingDeplatformed => "PUBLISHER_ONBOARDING_DEPLATFORMED"
  | .capabilityReviewRequested => "CAPABILITY_REVIEW_REQUESTED"
  | .capabilityReviewApproved => "CAPABILITY_REVIEW_APPROVED"
  | .capabilityReviewDeceptiveRejected => "CAPABILITY_REVIEW_DECEPTIVE_REJECTED"
  | .listingPublished => "LISTING_PUBLISHED"
  | .listingVisibilityDowngraded => "LISTING_VISIBILITY_DOWNGRADED"
  | .listingVsManifestMismatch => "LISTING_VS_MANIFEST_MISMATCH"
  | .marketplaceReviewBypassAttempted => "MARKETPLACE_REVIEW_BYPASS_ATTEMPTED"
  | .bridgeFetchStarted => "BRIDGE_FETCH_STARTED"
  | .bridgeFetchCompleted => "BRIDGE_FETCH_COMPLETED"
  | .bridgeUpstreamSignatureVerified => "BRIDGE_UPSTREAM_SIGNATURE_VERIFIED"
  | .bridgeUpstreamSignatureFailed => "BRIDGE_UPSTREAM_SIGNATURE_FAILED"
  | .bridgeRepackagedWithAiosKey => "BRIDGE_REPACKAGED_WITH_AIOS_KEY"
  | .bridgeDeceptiveRejected => "BRIDGE_DECEPTIVE_REJECTED"
  | .bridgeRateLimitExceeded => "BRIDGE_RATE_LIMIT_EXCEEDED"
  | .bridgeMetadataImported => "BRIDGE_METADATA_IMPORTED"
  | .bridgeRecipeImported => "BRIDGE_RECIPE_IMPORTED"
  | .bridgeBlacklisted => "BRIDGE_BLACKLISTED"
  | .bridgeDegradedUpstreamUnavailable => "BRIDGE_DEGRADED_UPSTREAM_UNAVAILABLE"
  | .bridgeTrustClassDeceptionDetected => "BRIDGE_TRUST_CLASS_DECEPTION_DETECTED"
  | .statusTransition => "STATUS_TRANSITION"
  | .artifactRecorded => "ARTIFACT_RECORDED"
  | .buildPassed => "BUILD_PASSED"
  | .testPassed => "TEST_PASSED"
  | .e2ePassed => "E2E_PASSED"
  | .recoveryRehearsalPassed => "RECOVERY_REHEARSAL_PASSED"
  | .releaseGatePassed => "RELEASE_GATE_PASSED"
  | .operationalHealthy => "OPERATIONAL_HEALTHY"
  | .invariantBundleLoaded => "INVARIANT_BUNDLE_LOADED"
  | .webExposureGranted => "WEB_EXPOSURE_GRANTED"
  | .identityBundleLoaded => "IDENTITY_BUNDLE_LOADED"
  | .groupRegistered => "GROUP_REGISTERED"
  | .receiptForgeryDetected => "RECEIPT_FORGERY_DETECTED"
  | .receiptPayloadDuplicateObserved => "RECEIPT_PAYLOAD_DUPLICATE_OBSERVED"
  | .receiptLineageDepthExceeded => "RECEIPT_LINEAGE_DEPTH_EXCEEDED"
  | .receiptOrphanActionRefDetected => "RECEIPT_ORPHAN_ACTION_REF_DETECTED"
  | .invariantBundleRejected => "INVARIANT_BUNDLE_REJECTED"
  | .policyBundleRejected => "POLICY_BUNDLE_REJECTED"
  | .identityBundleRejected => "IDENTITY_BUNDLE_REJECTED"
  | .capabilityBundleRejected => "CAPABILITY_BUNDLE_REJECTED"
  | .sandboxBundleRejected => "SANDBOX_BUNDLE_REJECTED"
  | .failureObservedRateLimited => "FAILURE_OBSERVED_RATE_LIMITED"
  | .graphEvaluationBudgetExceeded => "GRAPH_EVALUATION_BUDGET_EXCEEDED"
  | .transitionBudgetExceeded => "TRANSITION_BUDGET_EXCEEDED"
  | .adapterLifecycleIllegalTransition => "ADAPTER_LIFECYCLE_ILLEGAL_TRANSITION"
  | .publisherTrustLevelObserved => "PUBLISHER_TRUST_LEVEL_OBSERVED"
  | .publisherKeyCollision => "PUBLISHER_KEY_COLLISION"
  | .marketplaceReviewBudgetExceeded => "MARKETPLACE_REVIEW_BUDGET_EXCEEDED"
  | .bridgeOperatorConsentGranted => "BRIDGE_OPERATOR_CONSENT_GRANTED"
  | .bridgeDeferredNeedsReview => "BRIDGE_DEFERRED_NEEDS_REVIEW"
  | .bridgeMetadataDriftDetected => "BRIDGE_METADATA_DRIFT_DETECTED"
  | .bridgeBlacklistLifted => "BRIDGE_BLACKLIST_LIFTED"
  | .hardwareSubstrateAcceptOutsideRecoveryBlocked => "HARDWARE_SUBSTRATE_ACCEPT_OUTSIDE_RECOVERY_BLOCKED"
  | .firstBootOperation => "FIRST_BOOT_OPERATION"
  | .vaultBootstrapKeyUsed => "VAULT_BOOTSTRAP_KEY_USED"
  | .bootstrapKeyUseAfterExhaustBlocked => "BOOTSTRAP_KEY_USE_AFTER_EXHAUST_BLOCKED"
  | .vaultRekeyed => "VAULT_REKEYED"
  | .hardwareGraphDriftAccepted => "HARDWARE_GRAPH_DRIFT_ACCEPTED"
  | .vaultTpmResealRequired => "VAULT_TPM_RESEAL_REQUIRED"
  | .agentLifecycleTransitioned => "AGENT_LIFECYCLE_TRANSITIONED"
  | .compactionApprovalRequired => "COMPACTION_APPROVAL_REQUIRED"

def retentionClass : RecordType → RetentionClass
  | .actionReceived | .translationCreated | .routingDecision | .approvalRequested | .approvalGranted
  | .executionStarted | .verificationResult | .rollbackCompleted | .modelCall | .gcPass | .quarantineEvent
  | .conflictEvent | .systemAdminOperation | .crossGroupAccessDenied | .surfaceCreated | .surfaceDestroyed
  | .surfaceNeverRendered | .uiTreeValidationRejected | .uiRecoveryNodeDropped | .themeLoaded | .themeSwitched
  | .kdeRendererStarted | .kdeFrameDropped | .kdeKwinScriptLoaded | .kdePlasmaThemeOverridden
  | .kdeTokenFallbackUsed | .webRendererStarted | .webRendererDegraded | .webLanExposureActive
  | .webExposureRevoked | .webExtensionInterference | .webFullscreenRequested | .webThemeInjectionBlocked
  | .webThemeFallbackUsed | .webClientStorageQuotaBreach | .webRendererClsBreach
  | .webConstitutionalElementReregisterBlocked | .gpuDeviceEnumerated | .gpuDeviceDisconnected
  | .gpuVkDeviceCreated | .gpuVkDeviceDestroyed | .gpuDmabufGranted | .gpuDmabufDenied | .gpuCapabilityDenied
  | .gpuValidationDisabledRecovery | .gpuValidationEnabledNormal | .driverUnavailable | .vaultCapabilityIssued
  | .vaultCapabilityRotated | .vaultOperation | .approvalDelivered | .approvalExpired | .approvalConsumed
  | .actionValidated | .actionPolicyDecision | .actionDispatched | .executionSucceeded | .rollbackAttempted
  | .rollbackSucceeded | .adapterRegistered | .adapterDegraded | .aiInteractiveQueueDowngrade
  | .dryRunSimulationRecorded | .adapterDeprecatedDispatch | .exposureRequested | .publicExposureHeartbeat
  | .outboundGrantIssued | .lanSubnetDriftDetected | .externalModelCallBrokered | .packageFetchStarted
  | .packageVerified | .packageApprovalRequested | .packageInstalled | .packageUninstalled
  | .externalBridgePackageAdmitted | .kernelPipelineStarted | .kernelBuildCompleted | .kernelGateResult
  | .kernelConverged | .kernelImageObserved | .kernelRefreshScheduled | .appObserveStarted
  | .appObserveCompleted | .appTranslateManifestProposed | .appTranslateManifestApproved
  | .appRecipeContributed | .appRecipeImported | .appManifestDeltaProposed | .appManifestDeltaApproved
  | .firstBootStageCompleted | .failureObserved | .degradationLevelTransitioned | .componentRestarted
  | .circuitBreakerClosed | .unitRegistered | .unitStarted | .unitHealthy | .unitStopped | .graphEvaluated
  | .transitionQueued | .transitionStarted | .transitionSucceeded | .abCanaryPromoted | .graphBlockedResource
  | .graphConverged | .adapterRegistrationRequested | .adapterHealthy | .adapterHotReloaded
  | .modelInvocationStarted | .modelInvocationSucceeded | .modelRateLimited | .modelBackendRegistered
  | .agentRegistered | .agentProposalEmitted | .agentProposalApproved | .agentPlanBundledApproved
  | .agentMemoryWrite | .agentMemoryRead | .agentInterMessageSent | .packageObjectCreated
  | .packageObjectUpdated | .packagePrivateStateInitialized | .appLaunchStarted | .appLaunchSucceeded
  | .winePrefixCreated | .waydroidContainerStarted | .kvmVmBooted | .kvmVmTerminated | .profileContributed
  | .profileRatingAggregated | .profileRecommendationShown | .profileImportedFromUpstream | .cliRenderStarted
  | .cliNodeKindUnsupported | .cliDegradedNoTty | .cliScriptingModeInvoked | .cliOperatorAuthenticated
  | .hardwareGraphRebuilt | .deviceDetected | .deviceDriverBound | .deviceDisconnected
  | .removableDeviceRequest | .removableDeviceApproved | .dnsQueryPerformed | .vpnTunnelEstablished
  | .mdnsRequestReceived | .firmwareUpdateRequested | .firmwareVerificationPassed | .firmwareApplied
  | .telemetryPipelineStarted | .telemetryRetentionTierPromoted | .telemetrySamplingRateAdjusted
  | .telemetryEbpfProbeLoaded | .publisherOnboardingApplicationSubmitted | .capabilityReviewRequested
  | .listingPublished | .bridgeFetchStarted | .bridgeFetchCompleted | .bridgeUpstreamSignatureVerified
  | .bridgeRepackagedWithAiosKey | .bridgeMetadataImported | .bridgeRecipeImported | .statusTransition
  | .artifactRecorded | .buildPassed | .testPassed | .operationalHealthy | .receiptPayloadDuplicateObserved
  | .receiptLineageDepthExceeded | .failureObservedRateLimited | .publisherTrustLevelObserved
  | .marketplaceReviewBudgetExceeded | .bridgeOperatorConsentGranted | .bridgeDeferredNeedsReview
  | .agentLifecycleTransitioned => .standard24M
  | .approvalDenied | .surfaceGpuBudgetExceeded | .crossZoneViolationAttempted | .themeRejected
  | .kdeRenderFailed | .webRecoveryPageLoaded | .webRecoveryPageExited | .gpuBudgetExceeded
  | .gpuBudgetDowngraded | .iommuUnavailableDegraded | .vaultCapabilityRevoked | .approvalRevoked
  | .approvalDeliveryFailed | .executionFailed | .executionVerificationFailed | .adapterDeregistered
  | .idempotencyKeyReplayDetected | .experimentalAdapterLiveDispatch | .exposureDenied | .exposureRevoked
  | .exposureTerminatedTtlExpired | .outboundGrantRevoked | .allowlistFqdnFanoutExceeded
  | .lanPeerDriftDetected | .packageVerificationFailed | .packageInstallFailed | .packageDowngradeBlocked
  | .externalBridgeUpstreamSignatureFailed | .kernelDivergedRegression | .kernelRefreshPipelineFailed
  | .appObserveTimeout | .appTranslateManifestRejected | .circuitBreakerOpened | .timeDriftDetected
  | .unitDegraded | .unitFailed | .unitRollbackTriggered | .transitionFailed | .resourceBudgetDenied
  | .modelInvocationFailed | .modelBackendDegraded | .modelCircuitOpened | .modelVaultDeny | .modelNetworkDeny
  | .modelBackendRetired | .agentRetired | .agentProposalDenied | .agentPlanAbandoned
  | .agentInterMessageRejected | .agentBackendDegraded | .packageObjectRetired
  | .packageObjectVerificationFailed | .appLaunchFailed | .profileOutlierDetected
  | .profileVisibilityDowngraded | .profileRetired | .cliRenderFailed | .deviceDriverRejected
  | .removableDeviceDenied | .iommuDmaProtectionDegraded | .vpnTunnelFailed | .mdnsBroadcastDenied
  | .resolverBackendDegraded | .firmwareVerificationFailed | .firmwareApplyFailed | .biosUefiUpdateDeferred
  | .telemetryBackendUnavailable | .telemetryBackendDegraded | .publisherOnboardingIdentityVerified
  | .capabilityReviewApproved | .listingVisibilityDowngraded | .bridgeRateLimitExceeded
  | .bridgeDegradedUpstreamUnavailable | .e2ePassed | .receiptOrphanActionRefDetected
  | .graphEvaluationBudgetExceeded | .transitionBudgetExceeded | .bridgeMetadataDriftDetected => .extended60M
  | .policyDecision | .executionCompleted | .recoveryEvent | .chainCheckpoint | .emergencyOverrideGrant
  | .policyBundleLoad | .segmentSealed | .chainInconsistencyDetected | .tamperDetected
  | .crossSurfaceReadDenied | .recoveryKindRejected | .uiTrustBearingAuthorshipRefused
  | .themeInvariantViolated | .kdeRendererDegraded | .kdeLayerShellRejected | .kdeKwinScriptRejected
  | .kdeRecoveryShellStarted | .kdeRecoveryKindRejectedAtRenderer | .webLanExposureGranted
  | .webPublicExposureGranted | .webRecoveryKindRejected | .webPublicExposureFirewallRecorded
  | .hostCapabilityLie | .gpuBindingForgery | .gpuDeviceForceReclaimed | .vaultRawReveal
  | .vaultCapabilityForgery | .subjectKindRejectedForVault | .vaultRecoverySnapshotLoaded | .overrideRequested
  | .overrideQuorumReceived | .overrideGranted | .overrideConsumed | .overrideDenied | .overrideExpired
  | .overrideRevoked | .overrideReview | .recoveryBootEntered | .recoveryOperatorAuthenticated
  | .recoveryOperationPerformed | .recoveryTtlExpiredAutoReboot | .recoveryBootExited | .recoveryL5StartBlocked
  | .recoveryNetworkLanEnabled | .recoveryNetworkLanDisabled | .recoveryForensicAttachPerformed
  | .bootFailureAutoRecoveryTriggered | .rollbackFailedRequiresOperator | .adapterRegistrationRejected
  | .bindingVoidedActionRevised | .networkPostureChanged | .exposureGranted | .outboundOutsideManifest
  | .outboundDegradedToLoopbackAuto | .aiDirectInternetDenied | .backendDegradedNftablesToIptables
  | .rawSocketBypassAttempted | .packageQuarantined | .capabilityLieDetected | .trustChainBroken
  | .trustChainTooDeep | .manifestForged | .mirrorHashMismatchBlacklisted | .publisherKeyRotated
  | .publisherDeplatformed | .aiosRootKeyRotated | .kernelPromotedToA | .kernelPromotedToB
  | .kernelRollbackPerformed | .kernelImageDriftDetected | .pipelineDefinitionReplaced
  | .appHonestyClassViolation | .appEcosystemRuntimeBreakoutAttempted | .appAiDirectInstallAttemptedBlocked
  | .appRecipeDeceptiveRejectedAtIngest | .firstBootStarted | .firstBootFailed | .vaultRootKeyGenerated
  | .aiProviderModeSet | .initialFirewallPostureSet | .firstGroupRegistered | .firstUserRegistered
  | .recoveryOperatorRegistered | .firstBootComplete | .resetToFactoryInitiated
  | .componentRestartBudgetExhausted | .haltedPendingOperator | .backendVersionMismatch | .recoveryLoopDetected
  | .receiptRedactionFailed | .receiptIntegrityQuarantined | .receiptLineageCycleDetected
  | .receiptSequenceOutOfOrder | .unitDependencyCycleDetected | .abRollbackPerformed | .dependencyCycleDetected
  | .transitionConflict | .adapterActionKindViolation | .adapterCapabilityViolation | .adapterDowngradeRejected
  | .modelPromptInjectionDetected | .modelResponseSignatureFailed | .agentInterruptedByRecovery
  | .agentMemoryCrossUserDenied | .agentSelfGradingBlocked | .agentDirectFsWriteBlocked
  | .agentCrossGroupCoordinationBlocked | .agentPromptInjectionDetected | .packageObjectRolledBack
  | .packageObjectQuarantined | .packagePrivateStateCorruptDetected | .packageVersionDowngradeBlocked
  | .packageRecoveryRestorePerformed | .winePrefixBreakoutAttempted | .waydroidEscapeAttempted
  | .orchestrationKindMismatchRejected | .profileReputationFarmSuspected | .cliRecoveryKindRejected
  | .cliAutoConfirmRejected | .cliAnsiInjectionBlocked | .cliTrustIndicatorReordered | .deviceQuarantined
  | .aiRemovableDeviceBlocked | .hardwareGraphDriftDetected | .firmwareVersionDowngradeBlocked
  | .outOfTreeDriverBlocked | .dnsResolverRebindingDetected | .dnsPlainBlocked
  | .dnsResolverSubstitutionRejected | .vpnProviderKeyRotated | .vpnProviderKeyForgeryRejected
  | .mdnsPoisoningDetected | .firmwareDowngradeBlocked | .firmwareUnsignedRejected
  | .firmwareVendorDeplatformed | .firmwareRollbackPerformed | .firmwareTamperDetected
  | .operatorLocalFirmwareInstalled | .telemetryCardinalityBreach | .telemetryRedactionFailed
  | .telemetryLogInjectionDetected | .telemetryEbpfProbeRejected | .publisherOnboardingApproved
  | .publisherOnboardingRejected | .publisherOnboardingDeplatformed | .capabilityReviewDeceptiveRejected
  | .listingVsManifestMismatch | .marketplaceReviewBypassAttempted | .bridgeUpstreamSignatureFailed
  | .bridgeDeceptiveRejected | .bridgeBlacklisted | .bridgeTrustClassDeceptionDetected
  | .recoveryRehearsalPassed | .releaseGatePassed | .invariantBundleLoaded | .webExposureGranted
  | .identityBundleLoaded | .groupRegistered | .receiptForgeryDetected | .invariantBundleRejected
  | .policyBundleRejected | .identityBundleRejected | .capabilityBundleRejected | .sandboxBundleRejected
  | .adapterLifecycleIllegalTransition | .publisherKeyCollision | .bridgeBlacklistLifted
  | .hardwareSubstrateAcceptOutsideRecoveryBlocked | .firstBootOperation | .vaultBootstrapKeyUsed
  | .bootstrapKeyUseAfterExhaustBlocked | .vaultRekeyed | .hardwareGraphDriftAccepted | .vaultTpmResealRequired
  | .compactionApprovalRequired => .forever

/-- The numbers 1 to 427 in the order of declaration, and the first of the reserved range. -/
def wireId : RecordType → ℕ
  | .compactionApprovalRequired => 1000
  | recordType => recordType.ctorIdx + 1

/-- `RecordType::iter`. -/
def iter : List RecordType := (List.range 428).map ofNat

theorem ctorIdx_lt : recordType.ctorIdx < 428 := by
  cases recordType <;> decide

theorem ctorIdx_injective : Function.Injective RecordType.ctorIdx := by
  intro first second same
  rw [← ofNat_ctorIdx first, same, ofNat_ctorIdx]

theorem mem_iter : recordType ∈ iter :=
  List.mem_map.mpr ⟨recordType.ctorIdx, List.mem_range.mpr recordType.ctorIdx_lt, ofNat_ctorIdx recordType⟩

theorem wireId_of_ne {recordType : RecordType} (other : recordType ≠ .compactionApprovalRequired) :
    recordType.wireId = recordType.ctorIdx + 1 := by
  rw [wireId]
  exact other

theorem wireId_injective : Function.Injective wireId := by
  have dense : ∀ {recordType}, recordType ≠ compactionApprovalRequired → recordType.wireId ≠ 1000 := by
    intro recordType other same
    rw [wireId_of_ne other] at same
    have bound := recordType.ctorIdx_lt
    omega
  intro first second same
  by_cases last : first = .compactionApprovalRequired
  · subst last
    by_contra other
    exact dense (Ne.symm other) same.symm
  · by_cases last' : second = .compactionApprovalRequired
    · subst last'
      exact absurd same (dense last)
    · rw [wireId_of_ne last, wireId_of_ne last'] at same
      exact ctorIdx_injective (by omega)

theorem wireId_pos : 0 < recordType.wireId := by
  by_cases last : recordType = .compactionApprovalRequired
  · subst last
    decide
  · rw [wireId_of_ne last]
    omega

/-- A number for each name, small enough that all of them fit in one mask. -/
def nameCode (name : String) : ℕ := (Hex.bytesOf name).foldl (fun code byte => code * 263 + byte.toNat) 0 % 10451

set_option maxRecDepth 4000 in
theorem asWireStr_injective : Function.Injective asWireStr :=
  Distinct.injective_of_check mem_iter nameCode (by decide +kernel)

end RecordType

end Aios.Evidence
