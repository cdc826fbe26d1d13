/-!
The fixed part of a replay script, in which six marks stand for what differs between scripts.
-/

namespace BrowserFlow.Script

def templateLines : List String :=
  [ "import \x7b chromium, type Locator, type Page \x7d from 'playwright';",
    "import \x7b readFileSync \x7d from 'node:fs';",
    "import \x7b fileURLToPath \x7d from 'node:url';",
    "",
    "type LocatorSpec = \x7b",
    "  kind: string;",
    "  value?: string;",
    "  role?: string;",
    "  name?: string;",
    "\x7d;",
    "",
    "type SelectorBundle = \x7b",
    "  primary: string;",
    "  fallbacks: string[];",
    "\x7d;",
    "",
    "type ParamValue = string | number | boolean;",
    "",
    "type Step = \x7b",
    "  id: string;",
    "  type: string;",
    "  selectors: SelectorBundle;",
    "  locators: LocatorSpec[];",
    "  preconditions?: \x7b urlMatches?: string \x7d;",
    "  effects?: \x7b urlMatches?: string; elementVisible?: string \x7d;",
    "  params?: Record<string, ParamValue>;",
    "\x7d;",
    "",
    "type ValueTable = Record<string, ParamValue>;",
    "",
    "type InputOverrides = \x7b",
    "  byTestId?: ValueTable;",
    "  byName?: ValueTable;",
    "  byId?: ValueTable;",
    "  byLabel?: ValueTable;",
    "  byPlaceholder?: ValueTable;",
    "  fields?: ValueTable;",
    "\x7d;",
    "",
    "type KeyKind = 'testId' | 'name' | 'id' | 'label' | 'placeholder';",
    "",
    "const flowName = \x7b\x7bFLOW_NAME\x7d\x7d;",
    "const stepDelayMs = \x7b\x7bSTEP_DELAY_MS\x7d\x7d;",
    "const locatorWaitTimeoutMs = \x7b\x7bLOCATOR_TIMEOUT_MS\x7d\x7d;",
    "const preconditionMode: 'per-step' | 'start-only' = \x7b\x7bPRECONDITION_MODE\x7d\x7d;",
    "const dataPath =",
    "  process.env.FLOW_INPUTS ?? fileURLToPath(new URL(\x7b\x7bDATA_FILE\x7d\x7d, import.meta.url));",
    "const steps: Step[] = \x7b\x7bSTEPS\x7d\x7d;",
    "",
    "// ---------------------------------------------------------------------------",
    "// Replay-time step filter",
    "// ---------------------------------------------------------------------------",
    "",
    "const sameSelectors = (left: SelectorBundle, right: SelectorBundle) =>",
    "  left.primary === right.primary &&",
    "  left.fallbacks.length === right.fallbacks.length &&",
    "  left.fallbacks.every((fallback, index) => fallback === right.fallbacks[index]);",
    "",
    "const isRedundantFocus = (step: Step, next?: Step) =>",
    "  step.type === 'FOCUS' &&",
    "  next !== undefined &&",
    "  (next.type === 'CLICK' || next.type === 'LOGIN') &&",
    "  sameSelectors(step.selectors, next.selectors);",
    "",
    "const isRedundantSubmit = (step: Step, previous?: Step) =>",
    "  step.type === 'SUBMIT' &&",
    "  previous !== undefined &&",
    "  previous.type === 'CLICK' &&",
    "  (sameSelectors(step.selectors, previous.selectors) ||",
    "    step.preconditions?.urlMatches === previous.preconditions?.urlMatches);",
    "",
    "const filterSteps = (all: Step[]) =>",
    "  all.filter(",
    "    (step, index) =>",
    "      !isRedundantFocus(step, all[index + 1]) &&",
    "      !isRedundantSubmit(step, index > 0 ? all[index - 1] : undefined),",
    "  );",
    "",
    "// ---------------------------------------------------------------------------",
    "// Input overrides",
    "// ---------------------------------------------------------------------------",
    "",
    "const keyOrder: Array<[KeyKind, keyof InputOverrides]> = [",
    "  ['testId', 'byTestId'],",
    "  ['name', 'byName'],",
    "  ['id', 'byId'],",
    "  ['label', 'byLabel'],",
    "  ['placeholder', 'byPlaceholder'],",
    "];",
    "",
    "const semanticKeys = (step: Step) => \x7b",
    "  const keys: Record<KeyKind, string[]> = \x7b",
    "    testId: [],",
    "    name: [],",
    "    id: [],",
    "    label: [],",
    "    placeholder: [],",
    "  \x7d;",
    "",
    "  for (const spec of step.locators) \x7b",
    "    const value = spec.kind === 'role' ? spec.name : spec.value;",
    "    if (!value) \x7b",
    "      continue;",
    "    \x7d",
    "    switch (spec.kind) \x7b",
    "      case 'testId':",
    "        keys.testId.push(value);",
    "        break;",
    "      case 'name':",
    "        keys.name.push(value);",
    "        break;",
    "      case 'id':",
    "        keys.id.push(value);",
    "        break;",
    "      case 'label':",
    "      case 'role':",
    "        keys.label.push(value);",
    "        break;",
    "      case 'placeholder':",
    "        keys.placeholder.push(value);",
    "        break;",
    "      default:",
    "        break;",
    "    \x7d",
    "  \x7d",
    "",
    "  return keys;",
    "\x7d;",
    "",
    "const hasKey = (table: ValueTable | undefined, key: string) =>",
    "  table !== undefined && Object.prototype.hasOwnProperty.call(table, key);",
    "",
    "const lookupOverride = (overrides: InputOverrides, keys: Record<KeyKind, string[]>) => \x7b",
    "  for (const [kind, tableName] of keyOrder) \x7b",
    "    const table = overrides[tableName];",
    "    for (const key of keys[kind]) \x7b",
    "      if (hasKey(table, key)) \x7b",
    "        return table![key];",
    "      \x7d",
    "    \x7d",
    "  \x7d",
    "",
    "  for (const [kind] of keyOrder) \x7b",
    "    for (const key of keys[kind]) \x7b",
    "      if (hasKey(overrides.fields, key)) \x7b",
    "        return overrides.fields![key];",
    "      \x7d",
    "    \x7d",
    "  \x7d",
    "",
    "  return undefined;",
    "\x7d;",
    "",
    "const loadOverrides = (): InputOverrides | null => \x7b",
    "  let raw: string;",
    "  try \x7b",
    "    raw = readFileSync(dataPath, 'utf-8');",
    "  \x7d catch (error) \x7b",
    "    if ((error as NodeJS.ErrnoException).code !== 'ENOENT') \x7b",
    "      console.warn('Could not read input overrides at ' + dataPath + ': ' + String(error));",
    "    \x7d",
    "    return null;",
    "  \x7d",
    "",
    "  try \x7b",
    "    const parsed = JSON.parse(raw) as unknown;",
    "    if (parsed === null || typeof parsed !== 'object' || Array.isArray(parsed)) \x7b",
    "      console.warn('Ignoring input overrides at ' + dataPath + ': not an object');",
    "      return null;",
    "    \x7d",
    "    return parsed as InputOverrides;",
    "  \x7d catch (error) \x7b",
    "    console.warn('Ignoring malformed input overrides at ' + dataPath + ': ' + String(error));",
    "    return null;",
    "  \x7d",
    "\x7d;",
    "",
    "const applyOverrides = (all: Step[], overrides: InputOverrides | null) => \x7b",
    "  if (!overrides) \x7b",
    "    return all;",
    "  \x7d",
    "",
    "  return all.map((step) => \x7b",
    "    if (step.type !== 'INPUT' && step.type !== 'CHANGE') \x7b",
    "      return step;",
    "    \x7d",
    "    const value = lookupOverride(overrides, semanticKeys(step));",
    "    if (value === undefined) \x7b",
    "      return step;",
    "    \x7d",
    "    return \x7b ...step, params: \x7b ...(step.params ?? \x7b\x7d), value \x7d \x7d;",
    "  \x7d);",
    "\x7d;",
    "",
    "// ---------------------------------------------------------------------------",
    "// Selector resolution",
    "// ---------------------------------------------------------------------------",
    "",
    "const createLocator = (page: Page, spec: LocatorSpec): Locator | null => \x7b",
    "  const value = spec.value ?? '';",
    "  switch (spec.kind) \x7b",
    "    case 'page':",
    "      return page.locator('body');",
    "    case 'testId':",
    "      return page.getByTestId(value);",
    "    case 'dataTest':",
    "      return page.locator('[data-test=' + JSON.stringify(value) + ']');",
    "    case 'dataCy':",
    "      return page.locator('[data-cy=' + JSON.stringify(value) + ']');",
    "    case 'role':",
    "      return page.getByRole(spec.role as Parameters<Page['getByRole']>[0], \x7b",
    "        name: spec.name ?? '',",
    "      \x7d);",
    "    case 'label':",
    "      return page.getByLabel(value);",
    "    case 'placeholder':",
    "      return page.getByPlaceholder(value);",
    "    case 'id':",
    "      return page.locator('[id=' + JSON.stringify(value) + ']');",
    "    case 'name':",
    "      return page.locator('[name=' + JSON.stringify(value) + ']');",
    "    case 'text':",
    "      return page.getByText(value);",
    "    case 'css':",
    "      return page.locator(value);",
    "    case 'xpath':",
    "      return page.locator('xpath=' + value);",
    "    default:",
    "      return null;",
    "  \x7d",
    "\x7d;",
    "",
    "const resolveLocator = async (page: Page, step: Step) => \x7b",
    "  for (const spec of step.locators) \x7b",
    "    const locator = createLocator(page, spec);",
    "    if (!locator) \x7b",
    "      continue;",
    "    \x7d",
    "    try \x7b",
    "      await locator.first().waitFor(\x7b state: 'visible', timeout: locatorWaitTimeoutMs \x7d);",
    "      return locator.first();",
    "    \x7d catch \x7b",
    "      // Try the next selector candidate.",
    "    \x7d",
    "  \x7d",
    "  throw new Error('No locator found for: ' + step.selectors.primary);",
    "\x7d;",
    "",
    "// ---------------------------------------------------------------------------",
    "// Step dispatch",
    "// ---------------------------------------------------------------------------",
    "",
    "const waitForEffects = async (page: Page, step: Step) => \x7b",
    "  if (step.effects?.elementVisible) \x7b",
    "    await page.locator(step.effects.elementVisible).waitFor(\x7b state: 'visible' \x7d);",
    "  \x7d",
    "",
    "  if (step.effects?.urlMatches) \x7b",
    "    await page.waitForURL(step.effects.urlMatches, \x7b waitUntil: 'load' \x7d);",
    "    await page.waitForLoadState('networkidle');",
    "  \x7d",
    "\x7d;",
    "",
    "const performStep = async (page: Page, step: Step) => \x7b",
    "  console.log('[' + step.id + '] ' + step.type);",
    "",
    "  const precondition = step.preconditions?.urlMatches;",
    "  if (preconditionMode === 'per-step' && precondition && page.url() !== precondition) \x7b",
    "    await page.waitForURL(precondition, \x7b waitUntil: 'load' \x7d);",
    "  \x7d",
    "",
    "  if (step.type !== 'NAVIGATE') \x7b",
    "    const locator = await resolveLocator(page, step);",
    "",
    "    switch (step.type) \x7b",
    "      case 'INPUT':",
    "      case 'CHANGE': \x7b",
    "        const value = step.params?.value !== undefined ? String(step.params.value) : '';",
    "        const tagName = await locator.evaluate((element) => element.tagName.toLowerCase());",
    "        if (tagName === 'select') \x7b",
    "          await locator.selectOption(value);",
    "        \x7d else \x7b",
    "          await locator.fill(value);",
    "        \x7d",
    "        break;",
    "      \x7d",
    "      case 'KEYDOWN': \x7b",
    "        const key = step.params?.key !== undefined ? String(step.params.key) : 'Enter';",
    "        await locator.press(key);",
    "        break;",
    "      \x7d",
    "      case 'SUBMIT':",
    "      case 'LOGIN':",
    "      case 'FILL_FORM':",
    "        await locator.click();",
    "        await page.keyboard.press('Enter');",
    "        break;",
    "      default:",
    "        await locator.click();",
    "        break;",
    "    \x7d",
    "  \x7d",
    "",
    "  await waitForEffects(page, step);",
    "  await page.waitForTimeout(stepDelayMs);",
    "\x7d;",
    "",
    "const run = async () => \x7b",
    "  const stepsToRun = filterSteps(applyOverrides(steps, loadOverrides()));",
    "  console.log('Replaying ' + flowName + ' (' + stepsToRun.length + ' steps)');",
    "",
    "  const browser = await chromium.launch(\x7b headless: process.env.HEADLESS === 'true' \x7d);",
    "  try \x7b",
    "    const page = await browser.newPage();",
    "",
    "    const startUrl = stepsToRun[0]?.preconditions?.urlMatches;",
    "    if (startUrl) \x7b",
    "      await page.goto(startUrl);",
    "    \x7d",
    "",
    "    for (const step of stepsToRun) \x7b",
    "      try \x7b",
    "        await performStep(page, step);",
    "      \x7d catch (error) \x7b",
    "        const message = error instanceof Error ? error.message : String(error);",
    "        throw new Error(",
    "          'Step ' + step.id + ' (' + step.type + ', primary ' + step.selectors.primary + ') failed: ' + message,",
    "        );",
    "      \x7d",
    "    \x7d",
    "  \x7d finally \x7b",
    "    await browser.close();",
    "  \x7d",
    "\x7d;",
    "",
    "run().catch((error) => \x7b",
    "  console.error(error);",
    "  process.exit(1);",
    "\x7d);",
    ""]

/-- The script with its marks still in place. -/
def template : String := "\n".intercalate templateLines

end BrowserFlow.Script
